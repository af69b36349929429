import InferenceDispatch.Proofs.Manager.Expiry

namespace InferenceDispatch

namespace Manager

/-- No result is overdue, and every ticket is still remembered. -/
structure Swept (m : Manager) (lifetime now : Time) : Prop where
  results : m.overdue lifetime now = []
  tickets : ∀ t s, m.tickets.get? t = some s → s.isRemembered lifetime now = true

/-- One queued ticket gets a free slot of the model of its result; no other ticket and no other slot
changes. -/
structure Schedules (before : Manager) (t : Ticket) (r : Result) (after : Manager) : Prop where
  ticket : ∃ s, before.tickets.get? t = some s ∧ s.status = .queued ∧ after.tickets.get? t =
    some { s with status := .scheduled, model := some r.key.model, holdsSlot := true }
  result : after.results.get? t = some r
  others : ∀ x, x ≠ t → after.tickets.get? x = before.tickets.get? x ∧
    after.results.get? x = before.results.get? x
  free : before.slots.busy r.key.model < before.slots.total r.key.model
  slots : ∀ model, after.slots.total model = before.slots.total model ∧ after.slots.busy model =
    if model = r.key.model then before.slots.busy model + 1 else before.slots.busy model

/-- No key of the queue may be served. -/
def Idle (gate : Gate) (m : Manager) : Prop :=
  ∀ key, ¬gate.Servable m.workTable m.scheduler.queue key

def queued (m : Manager) : List Ticket :=
  (m.tickets.entries.filter fun e => e.2.status = .queued).map Prod.fst

section Queued

variable {m : Manager} {t : Ticket}

theorem nodup_queued (m : Manager) : m.queued.Nodup :=
  m.tickets.nodup.sublist (List.filter_sublist.map _)

theorem mem_queued : t ∈ m.queued ↔ m.status? t = some .queued := by
  simp only [queued, status?, List.mem_map, List.mem_filter, decide_eq_true_eq, Option.map_eq_some_iff,
    Table.get?_eq_some_iff]
  constructor
  · rintro ⟨⟨_, s⟩, ⟨hm, hst⟩, rfl⟩
    exact ⟨s, hm, hst⟩
  · rintro ⟨s, hm, hst⟩
    exact ⟨(t, s), ⟨hm, hst⟩, rfl⟩

theorem Linked.length_queued_le (h : m.Linked) : m.queued.length ≤ m.scheduler.queue.depth := by
  have entered : m.queued ⊆ m.scheduler.queue.entries.map fun e => e.task.ticket := by
    intro t ht
    obtain ⟨s, hs, hst⟩ := Option.map_eq_some_iff.mp (mem_queued.mp ht)
    obtain ⟨e, he, het⟩ := h.queued t s.task (waitingTask_eq_some.mpr ⟨s, hs, hst, rfl⟩)
    exact List.mem_map.mpr ⟨e, he, het⟩
  simpa [Queue.depth] using (List.subperm_of_subset m.nodup_queued entered).length_le

end Queued

section Sweep

variable {m : Manager} {settings : ManagerSettings} {now : Time} {t : Ticket}

theorem Swept.expire (h : m.Swept settings.resultLifetime now) :
    m.expire settings now = .answerOnly m () := by
  have none_stale : m.staleResults settings.resultLifetime now = [] := by
    rw [staleResults, ← overdue, h.results, List.map_nil]
  have kept : m.forget settings.resultLifetime now = m := by
    rw [forget, Table.filter_eq_self h.tickets]
  rw [Manager.expire, none_stale]
  simp only [expireResults, List.foldl_nil, Effect.answerOnly, kept]

theorem queued_expire_iff (h : m.Sound) (settings : ManagerSettings) (now : Time) :
    (m.expire settings now).state.status? t = some .queued ↔ m.status? t = some .queued := by
  constructor
  · intro hswept
    obtain ⟨sound, _, _, lapse⟩ := expire_spec settings now h
    obtain ⟨s, hs, hst⟩ := Option.map_eq_some_iff.mp hswept
    have before := lapse t
    rw [sound.standing_queued hs hst] at before
    rw [status_standing, before.queued, Option.map_some]
  · intro hqueued
    obtain ⟨s, hs, hst⟩ := Option.map_eq_some_iff.mp hqueued
    rw [status?, get?_expire_of_active h settings now hs (by rw [hst]; rfl)
      (congrArg Prod.snd (h.standing_queued hs hst)), Option.map_some, hst]

end Sweep

section Tick

variable {α : Type} [OfScientific α] [Add α] [Sub α] [Mul α] [LE α] [LT α]
  [DecidableLE α] [DecidableLT α] {strategy : Strategy α} {gate : Gate} {settings : ManagerSettings}
  {m : Manager} {now : Time} {t : Ticket}

theorem schedules_assign {w : Scheduled} {scheduler : Scheduler} (h : m.Sound)
    (hw : m.scheduler.schedule strategy gate m.workTable now = some (w, scheduler)) :
    Schedules m w.task.ticket (resultOf w now) ({ m with scheduler }.assign now w).state := by
  obtain ⟨s, hs, hst, free⟩ := picked_queued h hw
  refine ⟨⟨s, hs, hst, ?_⟩, ?_, fun x hx => ⟨?_, ?_⟩, ?_, fun model => ⟨?_, ?_⟩⟩
  · rw [get?_assign h hw, if_pos rfl, hs]
    rfl
  · rw [result_assign, if_pos rfl]
  · rw [get?_assign h hw, if_neg hx]
  · rw [result_assign, if_neg hx]
  · rw [SlotTable.available_workTable] at free
    exact Nat.lt_of_sub_pos free
  · exact SlotTable.total_take free model
  · exact SlotTable.busy_take free model

theorem swept_tick (h : m.Sound) (strategy : Strategy α) (gate : Gate) (settings : ManagerSettings)
    (now : Time) : (m.tick strategy gate settings now).state.Swept settings.resultLifetime now where
  results := by
    refine List.eq_nil_iff_forall_not_mem.mpr fun ⟨t, r⟩ ho => ?_
    obtain ⟨hr, late⟩ := mem_overdue.mp ho
    exact Nat.not_lt_of_le (age_after_tick h hr) late
  tickets := by
    intro t s hs
    rcases get?_tick h strategy gate settings now t with same | ⟨_, scheduled⟩
    · exact ((get?_forget ..).mp (same.symm.trans hs)).2
    · have hst : s.status = .scheduled := Option.some.inj ((status_of_get? hs).symm.trans scheduled)
      have sound := (step_tick h strategy gate settings now).sound
      exact sound.accounted.isRemembered hs (by rw [hst]; rfl) _ now

theorem tick_false (h : m.Sound) (answered : (m.tick strategy gate settings now).answer = false) :
    (m.tick strategy gate settings now).state = (m.expire settings now).state ∧
      Idle gate (m.tick strategy gate settings now).state := by
  rcases tick_told h strategy gate settings now with ⟨nothing, heq⟩ | ⟨_, _, _, _, heq⟩
  · rw [heq]
    exact ⟨rfl, nothing⟩
  · rw [heq] at answered
    cases answered

theorem tick_true (h : m.Sound) (answered : (m.tick strategy gate settings now).answer = true) :
    ∃ t r, m.status? t = some .queued ∧
      Schedules (m.expire settings now).state t r (m.tick strategy gate settings now).state ∧
      (m.tick strategy gate settings now).events = (m.expire settings now).events ++ [report t r] := by
  rcases tick_told h strategy gate settings now with ⟨_, heq⟩ | ⟨w, scheduler, _, hw, heq⟩
  · rw [heq] at answered
    cases answered
  · have schedules := schedules_assign (expire_spec settings now h).1 hw
    obtain ⟨s, hs, hst, _⟩ := schedules.ticket
    have waits := (queued_expire_iff h settings now).mp (hst ▸ status_of_get? hs)
    rw [heq]
    exact ⟨w.task.ticket, resultOf w now, waits, schedules, rfl⟩

theorem tick_of_idle (h : m.Sound) (swept : m.Swept settings.resultLifetime now)
    (idle : Idle gate m) : m.tick strategy gate settings now = .answerOnly m false := by
  have same := swept.expire
  rcases tick_told h strategy gate settings now with ⟨_, heq⟩ | ⟨w, _, servable, _⟩
  · rw [heq, same]
    rfl
  · rw [same] at servable
    exact absurd servable (idle w.key)

/-- Every pass that schedules leaves one queued ticket less. -/
theorem length_queued_tick (h : m.Sound) (strategy : Strategy α) (gate : Gate)
    (settings : ManagerSettings) (now : Time) :
    (m.tick strategy gate settings now).state.queued.length +
      (if (m.tick strategy gate settings now).answer then 1 else 0) = m.queued.length := by
  have swept : (m.expire settings now).state.queued.length = m.queued.length :=
    length_eq_of_mem_iff m.nodup_queued (nodup_queued _) fun x => by
      rw [mem_queued, mem_queued, queued_expire_iff h]
  cases answered : (m.tick strategy gate settings now).answer with
  | false =>
    rw [(tick_false h answered).1, swept]
    rfl
  | true =>
    obtain ⟨t, r, _, schedules, _⟩ := tick_true h answered
    obtain ⟨s, hs, hst, hafter⟩ := schedules.ticket
    rw [if_pos rfl, ← swept]
    refine (length_eq_succ_of_mem_iff (a := t) (nodup_queued _) (nodup_queued _) ?_ fun x => ?_).symm
    · rw [mem_queued, status_of_get? hafter]
      simp
    · rw [mem_queued, mem_queued]
      by_cases hx : x = t
      · simp [hx, status_of_get? hs, hst]
      · simp [hx, status?, (schedules.others x hx).1]

theorem idle_tickRepeatedly (h : m.Sound) {bound : Nat} (enough : m.queued.length < bound) :
    Idle gate (tickRepeatedly strategy gate settings now bound m).state := by
  induction bound generalizing m with
  | zero => exact absurd enough (Nat.not_lt_zero _)
  | succ bound ih =>
    have fewer := length_queued_tick h strategy gate settings now
    rw [tickRepeatedly, Effect.state_andThen]
    cases answered : (m.tick strategy gate settings now).answer with
    | false => exact (tick_false h answered).2
    | true =>
      rw [answered, if_pos rfl] at fewer
      rw [if_pos rfl]
      exact ih (step_tick h strategy gate settings now).sound (by omega)

/-- Every queued ticket has an entry, so the depth of the queue bounds the number of passes. -/
theorem idle_drain (h : m.Sound) (strategy : Strategy α) (gate : Gate) (settings : ManagerSettings)
    (now : Time) : Idle gate (m.drain strategy gate settings now).state :=
  idle_tickRepeatedly h (Nat.lt_succ_of_le h.linked.length_queued_le)

end Tick

def Answer.scheduled : Answer → Bool
  | passed scheduled => scheduled
  | _ => false

section Run

variable {α : Type} [OfScientific α] [Add α] [Sub α] [Mul α] [LE α] [LT α]
  [DecidableLE α] [DecidableLT α] {strategy : Strategy α} {settings : ManagerSettings} {gate : Gate}
  {start : Time} {s s₀ : Clocked Manager}
  {earlier turns : List (Turn (Clocked Manager) Call Answer)}

theorem turn_of_tick (run : Run (Call.perform strategy settings) s₀ turns s) (h : s₀.state.Sound)
    {turn : Turn (Clocked Manager) Call Answer} (ht : turn ∈ turns) (hcall : turn.call = .tick gate) :
    let pass := turn.before.state.tick strategy gate settings turn.before.now
    turn.before.state.Sound ∧
      turn.effect = ⟨⟨turn.before.now, pass.state⟩, .passed pass.answer, pass.events⟩ := by
  obtain ⟨sound, hc⟩ := call_of_mem run h ht
  rw [hcall] at hc
  exact ⟨sound, (Except.ok.inj hc).symm⟩

theorem scheduled_add_queued (run : Run (Call.perform strategy settings) s₀ turns s)
    (h : s₀.state.Sound) (ticks : ∀ turn ∈ turns, turn.call = .tick gate) :
    turns.countP (fun turn => turn.answer.scheduled) + s.state.queued.length =
      s₀.state.queued.length := by
  induction run with
  | start => simp
  | @next turns s c e run hc ih =>
    obtain ⟨before, last⟩ := List.forall_mem_append.mp ticks
    obtain rfl : c = .tick gate := last _ List.mem_cons_self
    obtain rfl := Except.ok.inj hc
    have fewer := length_queued_tick (sound_of_run run h) strategy gate settings s.now
    rw [List.countP_append, ← ih before, ← fewer, List.countP_singleton, Nat.add_assoc,
      Nat.add_comm (ite _ _ _)]
    rfl

theorem idle_run (run : Run (Call.perform strategy settings) s₀ turns s) (h : s₀.state.Sound)
    (ticks : ∀ turn ∈ turns, turn.call = .tick gate)
    (swept : s₀.state.Swept settings.resultLifetime s₀.now) (idle : Idle gate s₀.state) :
    s = s₀ ∧ ∀ turn ∈ turns, turn.before = s₀ ∧ turn.effect = .answerOnly s₀ (.passed false) := by
  induction run with
  | start => exact ⟨rfl, by simp⟩
  | @next turns s c e run hc ih =>
    obtain ⟨before, last⟩ := List.forall_mem_append.mp ticks
    obtain rfl : c = .tick gate := last _ List.mem_cons_self
    obtain ⟨rfl, same⟩ := ih before
    have nothing : s.state.tick strategy gate settings s.now = .answerOnly s.state false :=
      tick_of_idle h swept idle
    have still : e = .answerOnly s (.passed false) := by
      rw [← Except.ok.inj hc, nothing]
      rfl
    subst still
    refine ⟨rfl, fun turn ht => ?_⟩
    rcases List.mem_append.mp ht with ht | ht
    · exact same turn ht
    · obtain rfl := List.mem_singleton.mp ht
      exact ⟨rfl, rfl⟩

theorem swept_after_pass (run : Run (Call.perform strategy settings) s₀ turns s) (h : s₀.state.Sound)
    (ticks : ∀ turn ∈ turns, turn.call = .tick gate)
    {front back : List (Turn (Clocked Manager) Call Answer)} {turn : Turn (Clocked Manager) Call Answer}
    (hturns : turns = front ++ turn :: back) (later : front ≠ []) :
    turn.before.state.Swept settings.resultLifetime turn.before.now := by
  rcases List.eq_nil_or_concat front with rfl | ⟨front, last, rfl⟩
  · exact absurd rfl later
  · rw [List.concat_eq_append, List.append_assoc, List.singleton_append] at hturns
    subst hturns
    have hlast : last ∈ front ++ last :: turn :: back := by simp
    obtain ⟨sound, heffect⟩ := turn_of_tick run h hlast (ticks last hlast)
    obtain ⟨_, _, rest⟩ := run.cut_at
    change Run _ _ ([] ++ turn :: back) s at rest
    obtain ⟨between, _⟩ := rest.cut_at
    rw [between.eq_of_nil, Turn.after, heffect]
    exact swept_tick sound strategy gate settings last.before.now

/-- After a pass that scheduled nothing all passes leave the manager as it is, and nothing may be served. -/
theorem standstill_after (run : Run (Call.perform strategy settings) s₀ turns s) (h : s₀.state.Sound)
    (ticks : ∀ turn ∈ turns, turn.call = .tick gate)
    {front back : List (Turn (Clocked Manager) Call Answer)} {turn : Turn (Clocked Manager) Call Answer}
    (hturns : turns = front ++ turn :: back) (answered : turn.answer = .passed false) :
    Idle gate s.state ∧
      ∀ next ∈ back, next.answer = .passed false ∧ next.after = next.before ∧ next.events = [] := by
  subst hturns
  have hturn : turn ∈ front ++ turn :: back := by simp
  obtain ⟨sound, heffect⟩ := turn_of_tick run h hturn (ticks turn hturn)
  obtain ⟨_, _, rest⟩ := run.cut_at
  rw [Turn.answer, heffect, Answer.passed.injEq] at answered
  have after : turn.after = ⟨turn.before.now, (turn.before.state.tick strategy gate settings
      turn.before.now).state⟩ := congrArg Effect.state heffect
  rw [after] at rest
  have idle := (tick_false sound answered).2
  obtain ⟨rfl, still⟩ := idle_run rest (step_tick sound strategy gate settings turn.before.now).sound
    (fun next hn => ticks next (by simp [hn])) (swept_tick sound strategy gate settings _) idle
  refine ⟨idle, fun next hn => ?_⟩
  obtain ⟨before, effect⟩ := still next hn
  rw [Turn.answer, Turn.after, Turn.events, before, effect]
  exact ⟨rfl, rfl, rfl⟩

theorem exists_idle_pass (run : Run (Call.perform strategy settings) s₀ turns s)
    (h : s₀.state.Sound) (ticks : ∀ turn ∈ turns, turn.call = .tick gate)
    (longer : s₀.state.queued.length < turns.length) : ∃ turn ∈ turns, turn.answer = .passed false := by
  by_contra busy
  have all : turns.countP (fun turn => turn.answer.scheduled) = turns.length := by
    refine List.countP_eq_length.mpr fun turn ht => ?_
    obtain ⟨_, heffect⟩ := turn_of_tick run h ht (ticks turn ht)
    have answer := congrArg Effect.answer heffect
    change turn.answer = .passed _ at answer
    cases answered : (turn.before.state.tick strategy gate settings turn.before.now).answer with
    | false => exact absurd ⟨turn, ht, answered ▸ answer⟩ busy
    | true =>
      rw [answer, answered]
      rfl
  have balance := scheduled_add_queued run h ticks
  omega

/-- Over passes with the same reports of the providers and while no time passes: a pass that schedules gives
one queued ticket a free slot and changes no other ticket but by its sweep; only the first has anything to
sweep; as many schedule as there are fewer queued tickets in the end, so one more pass than there are queued
tickets comes to a standstill; and from then on every pass leaves all as it is, while no entry has both a
free slot of its model and a provider that takes work. The repeated pass ends there. -/
theorem passes_come_to_standstill
    (run : Run (Call.perform strategy settings) ⟨start, empty⟩ earlier s₀)
    (passes : Run (Call.perform strategy settings) s₀ turns s)
    (ticks : ∀ turn ∈ turns, turn.call = .tick gate) :
    (∀ turn ∈ turns, turn.answer = .passed true → ∃ t r,
      turn.before.state.status? t = some .queued ∧
      Schedules (turn.before.state.expire settings turn.before.now).state t r turn.after.state ∧
      report t r ∈ turn.events) ∧
    (∀ front turn back, turns = front ++ turn :: back → front ≠ [] →
      turn.before.state.expire settings turn.before.now = .answerOnly turn.before.state ()) ∧
    turns.countP (fun turn => turn.answer.scheduled) + s.state.queued.length =
      s₀.state.queued.length ∧
    (s₀.state.queued.length < turns.length → ∃ turn ∈ turns, turn.answer = .passed false) ∧
    (∀ front turn back, turns = front ++ turn :: back → turn.answer = .passed false →
      (∀ next ∈ back, next.answer = .passed false ∧ next.after = next.before ∧ next.events = []) ∧
      ∀ e ∈ s.state.scheduler.queue.entries,
        ¬(0 < s.state.workTable.available e.key.model ∧ gate.admitsWork e.key = true)) ∧
    Idle gate (s₀.state.drain strategy gate settings s₀.now).state := by
  have h := sound_of_run run sound_empty
  refine ⟨fun turn ht answered => ?_, fun front turn back hturns later => ?_,
    scheduled_add_queued passes h ticks, exists_idle_pass passes h ticks,
    fun front turn back hturns answered => ?_, idle_drain h strategy gate settings s₀.now⟩
  · obtain ⟨sound, heffect⟩ := turn_of_tick passes h ht (ticks turn ht)
    rw [Turn.answer, heffect, Answer.passed.injEq] at answered
    obtain ⟨t, r, waits, schedules, told⟩ := tick_true sound answered
    rw [Turn.after, Turn.events, heffect]
    exact ⟨t, r, waits, schedules, by simp [told]⟩
  · exact (swept_after_pass passes h ticks hturns later).expire
  · obtain ⟨idle, still⟩ := standstill_after passes h ticks hturns answered
    exact ⟨still, fun e he waits => idle e.key ⟨⟨e, he, rfl⟩, waits⟩⟩

/-- The first pass lets a result expire and gives its slot to another request, the second serves a request
for another model, and the others do nothing: of the two requests that still wait, one lacks a slot of one
model and a provider for the other, and the provider of the other request takes no work. -/
theorem two_passes_then_standstill : ∃ earlier s₀ turns s,
    Run (Call.perform (.firstCome : Strategy Double) ⟨1, 1⟩) ⟨0, empty⟩ earlier s₀ ∧
      Run (Call.perform (.firstCome : Strategy Double) ⟨1, 1⟩) s₀ turns s ∧
      turns.length = 5 ∧ s₀.state.queued.length = 4 ∧ s.state.queued = [3, 4] ∧
      s.state.scheduler.queue.entries.map Entry.key = [⟨"o", "q"⟩, ⟨"m", "p"⟩, ⟨"n", "q"⟩] ∧
      ∀ e ∈ s.state.scheduler.queue.entries,
        ¬(0 < s.state.workTable.available e.key.model ∧ decide (e.key.provider ≠ "q") = true) := by
  let gate : Gate := ⟨fun key => key.provider ≠ "q", fun _ => false⟩
  let request : Call := .add "" [⟨"m", "p", 1, .normal⟩]
  have played : ((play (Call.perform (.firstCome : Strategy Double) ⟨1, 1⟩)
      [request, request, .add "" [⟨"o", "q", 1, .normal⟩],
        .add "" [⟨"m", "p", 1, .normal⟩, ⟨"n", "q", 1, .normal⟩], .add "" [⟨"r", "p", 1, .normal⟩],
        .tick .unguarded, .advance 2] ⟨0, empty⟩).toOption.bind fun r =>
      (play (Call.perform (.firstCome : Strategy Double) ⟨1, 1⟩)
        (List.replicate 5 (.tick gate)) r.2).toOption.map fun r =>
          (r.1.countP (fun turn => turn.answer.scheduled), r.2.state.queued,
            r.2.state.scheduler.queue.entries.map Entry.key)) =
      some (2, [3, 4], [⟨"o", "q"⟩, ⟨"m", "p"⟩, ⟨"n", "q"⟩]) := by decide +kernel
  obtain ⟨earlier, s₀, turns, s, run, passes, hcalls, hview⟩ := Run.exists_of_play_parts played
  obtain ⟨scheduled, hview⟩ := Prod.mk.inj hview
  obtain ⟨waiting, keys⟩ := Prod.mk.inj hview
  have length : turns.length = 5 := by
    rw [← List.length_map, hcalls, List.length_replicate]
  have ticks : ∀ turn ∈ turns, turn.call = .tick gate := fun turn ht =>
    List.eq_of_mem_replicate (hcalls ▸ List.mem_map_of_mem ht)
  obtain ⟨_, _, balance, longer, still, _⟩ := passes_come_to_standstill run passes ticks
  dsimp only at scheduled waiting
  rw [scheduled, waiting] at balance
  have queued : s₀.state.queued.length = 4 := balance.symm
  obtain ⟨turn, ht, answered⟩ := longer (by rw [queued, length]; decide)
  obtain ⟨front, back, hturns⟩ := List.append_of_mem ht
  exact ⟨earlier, s₀, turns, s, run, passes, length, queued, waiting, keys,
    (still front turn back hturns answered).2⟩

end Run

end Manager

end InferenceDispatch
