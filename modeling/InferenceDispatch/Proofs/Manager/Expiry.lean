import InferenceDispatch.Proofs.Manager.Polling
import InferenceDispatch.Proofs.Manager.Reports
import InferenceDispatch.Proofs.Manager.SlotOwnership
import InferenceDispatch.Proofs.Scheduler.Sharing

namespace InferenceDispatch

namespace Manager

variable {m : Manager} {t : Ticket} {s : TicketState} {r : Result} {lifetime now : Time}

/-- The report that nobody claimed a result in time. -/
def unclaimed (now : Time) (e : Ticket × Result) : Event :=
  .complete e.1 e.2.key.model .expired none now

section Sweep

theorem slots_expireResult (h : m.Sound) (hr : m.results.get? t = some r) (now : Time)
    (model : String) : (expireResult now m t).state.slots.total model = m.slots.total model ∧
    (expireResult now m t).state.slots.busy model + (if r.key.model = model then 1 else 0) =
      m.slots.busy model := by
  obtain ⟨_, s, hs, hst, hmodel⟩ := h.accounted.results t r hr
  obtain ⟨own, hown, heq⟩ := close_eq h hs hst .expired now
  obtain rfl := Option.some.inj (hown.symm.trans hmodel)
  have released : (expireResult now m t).state.slots = m.slots.release r.key.model := by
    rw [expireResult, heq]
  rw [released, SlotTable.total_release, SlotTable.busy_release]
  refine ⟨rfl, ?_⟩
  have holds : t ∈ m.holders r.key.model := h.accounted.mem_holders.mpr ⟨s, hs, hst, hmodel⟩
  have positive : 0 < m.slots.busy r.key.model :=
    h.accounted.busy r.key.model ▸ List.length_pos_of_mem holds
  by_cases hm : r.key.model = model
  · subst hm
    rw [if_pos rfl, if_pos rfl]
    omega
  · rw [if_neg hm, if_neg (Ne.symm hm), Nat.add_zero]

theorem expireResults_told (h : m.Sound) {es : List (Ticket × Result)}
    (nodup : (es.map Prod.fst).Nodup) (pending : ∀ e ∈ es, m.results.get? e.1 = some e.2)
    (now : Time) :
    let e := expireResults now (es.map Prod.fst) m
    e.events = es.map (unclaimed now) ∧ ∀ model,
      e.state.slots.total model = m.slots.total model ∧
      e.state.slots.busy model + es.countP (fun x => x.2.key.model = model) =
        m.slots.busy model := by
  induction es generalizing m with
  | nil => exact ⟨rfl, fun _ => ⟨rfl, rfl⟩⟩
  | cons x es ih =>
    obtain ⟨t, r⟩ := x
    obtain ⟨ht, nodup⟩ := List.nodup_cons.mp nodup
    have hr : m.results.get? t = some r := pending _ List.mem_cons_self
    obtain ⟨s, hs, hst⟩ := h.scheduled_of_result hr
    have rest : ∀ x ∈ es, (expireResult now m t).state.results.get? x.1 = some x.2 := by
      intro x hx
      have other : x.1 ≠ t := by
        rintro hxt
        exact ht (List.mem_map.mpr ⟨x, hx, hxt⟩)
      exact (result_close h hs hst .expired now x.1).trans
        (by rw [if_neg other, pending x (List.mem_cons_of_mem _ hx)])
    have sound : (expireResult now m t).state.Sound := sound_close h hs hst rfl now
    obtain ⟨told, slots⟩ := ih sound nodup rest
    rw [List.map_cons, expireResults_cons]
    refine ⟨?_, fun model => ?_⟩
    · rw [Effect.events_andThen, told, events_expireResult h hr]
      rfl
    · obtain ⟨total, busy⟩ := slots_expireResult h hr now model
      obtain ⟨totals, busies⟩ := slots model
      refine ⟨totals.trans total, ?_⟩
      rw [Effect.state_andThen, ← busy, ← busies, List.countP_cons, Nat.add_assoc]
      simp only [decide_eq_true_eq]

/-- What the sweep of a pass does: the reports, the slots, the tickets and the results. -/
theorem expire_told (h : m.Sound) (settings : ManagerSettings) (now : Time) :
    let swept := m.expire settings now
    swept.events = (m.overdue settings.resultLifetime now).map (unclaimed now) ∧
      ∀ model, swept.state.slots.total model = m.slots.total model ∧
        swept.state.slots.busy model +
          (m.overdue settings.resultLifetime now).countP (fun x => x.2.key.model = model) =
            m.slots.busy model :=
  expireResults_told h (nodup_staleResults m settings.resultLifetime now)
    (fun _ he => (mem_overdue.mp he).1) now

theorem result_expire (h : m.Sound) (settings : ManagerSettings) (now : Time) (t : Ticket) :
    (m.expire settings now).state.results.get? t =
      (m.results.get? t).filter fun r => elapsed r.readyAt now ≤ settings.resultLifetime := by
  obtain ⟨_, _, _, _, results⟩ := expireResults_spec h
    (nodup_staleResults m settings.resultLifetime now) (fun t ht => mem_staleResults ht) now
  refine (results t).trans ?_
  simp only [mem_staleResults_iff, mem_overdue]
  cases m.results.get? t with
  | none => simp
  | some r =>
    by_cases late : settings.resultLifetime < elapsed r.readyAt now
    · simp [Option.filter_some, late, Nat.not_le_of_lt late]
    · simp [Option.filter_some, late, Nat.le_of_not_lt late]

theorem not_remembered_iff : s.isRemembered lifetime now = false ↔
    ∃ at_, s.finishedAt = some at_ ∧ lifetime < elapsed at_ now := by
  unfold TicketState.isRemembered
  cases s.finishedAt with
  | none => simp
  | some at_ => simp

theorem get?_expire_eq_none_iff (h : m.Sound) (settings : ManagerSettings) (now : Time)
    (hs : m.tickets.get? t = some s) : (m.expire settings now).state.tickets.get? t = none ↔
      ∃ at_, s.finishedAt = some at_ ∧ settings.resultLifetime < elapsed at_ now := by
  by_cases ho : ∃ r, (t, r) ∈ m.overdue settings.resultLifetime now
  · obtain ⟨r, ho⟩ := ho
    obtain ⟨s', hs', hst, _, ended⟩ := get?_expire_of_overdue h settings ho
    obtain rfl := Option.some.inj (hs.symm.trans hs')
    have running : s.finishedAt = none :=
      (h.accounted.states t s hs).finished.mpr (by rw [hst]; rfl)
    simp [ended, running]
  · rw [get?_expire h settings now (not_exists.mp ho), hs, Option.filter_some, ← not_remembered_iff]
    cases s.isRemembered settings.resultLifetime now <;> simp

theorem get?_expire_of_active (h : m.Sound) (settings : ManagerSettings) (now : Time)
    (hs : m.tickets.get? t = some s) (active : s.status.isTerminal = false)
    (claimed : m.results.get? t = none) :
    (m.expire settings now).state.tickets.get? t = some s := by
  have ho : ∀ r, (t, r) ∉ m.overdue settings.resultLifetime now := by
    intro r ho
    have hr := (mem_overdue.mp ho).1
    rw [claimed] at hr
    cases hr
  rw [get?_expire h settings now ho, hs, Option.filter_some,
    if_pos (h.accounted.isRemembered hs active _ now)]

theorem status_expire (h : m.Sound) (settings : ManagerSettings) (now : Time)
    (hst : (m.expire settings now).state.status? t = some .expired) :
    m.status? t = some .expired ∨ ∃ r, (t, r) ∈ m.overdue settings.resultLifetime now := by
  by_cases ho : ∃ r, (t, r) ∈ m.overdue settings.resultLifetime now
  · exact Or.inr ho
  · obtain ⟨s, hs, hst⟩ := Option.map_eq_some_iff.mp hst
    rw [get?_expire h settings now (not_exists.mp ho), Option.filter_eq_some_iff] at hs
    exact Or.inl (hst ▸ status_of_get? hs.1)

end Sweep

section Tick

variable {α : Type} [OfScientific α] [Add α] [Sub α] [Mul α] [LE α] [LT α]
  [DecidableLE α] [DecidableLT α] {strategy : Strategy α} {gate : Gate}

/-- A pass sweeps; then it schedules nothing, if no key may be served from the slots that are free by then,
or else a queued request under such a key. -/
theorem tick_told (h : m.Sound) (strategy : Strategy α) (gate : Gate) (settings : ManagerSettings)
    (now : Time) :
    let swept := m.expire settings now
    (∀ key, ¬gate.Servable swept.state.workTable swept.state.scheduler.queue key) ∧
        m.tick strategy gate settings now = ⟨swept.state, false, swept.events⟩ ∨
      ∃ w scheduler, gate.Servable swept.state.workTable swept.state.scheduler.queue w.key ∧
        swept.state.scheduler.schedule strategy gate swept.state.workTable now = some (w, scheduler) ∧
        m.tick strategy gate settings now =
          ⟨({ swept.state with scheduler }.assign now w).state, true,
            swept.events ++ [report w.task.ticket (resultOf w now)]⟩ := by
  have filed := (expire_spec settings now h).1.linked.exact.filed
  unfold tick
  generalize m.expire settings now = swept at filed
  rcases Scheduler.schedule_cases filed strategy gate swept.state.workTable now with
    ⟨nothing, hs⟩ | ⟨w, scheduler, servable, hs⟩
  · refine Or.inl ⟨nothing, ?_⟩
    simp only [Effect.andThen, hs, ite_self, Effect.answerOnly, List.append_nil]
  · have waits : ¬swept.state.scheduler.queue.isEmpty := by
      obtain ⟨e, he, _⟩ := servable.1
      rw [Queue.isEmpty, List.isEmpty_iff]
      exact List.ne_nil_of_mem he
    refine Or.inr ⟨w, scheduler, servable, hs, ?_⟩
    simp only [Effect.andThen, hs, if_neg waits]
    rfl

theorem result_tick (h : m.Sound) (strategy : Strategy α) (gate : Gate) (settings : ManagerSettings)
    (now : Time) (t : Ticket) :
    (m.tick strategy gate settings now).state.results.get? t =
        (m.expire settings now).state.results.get? t ∨
      m.results.get? t = none ∧ ∃ r, r.readyAt = now ∧
        (m.tick strategy gate settings now).state.results.get? t = some r := by
  obtain ⟨sound, _, _, lapse⟩ := expire_spec settings now h
  rcases tick_cases strategy gate settings now m with ⟨_, hstate⟩ | ⟨_, w, scheduler, hw, hstate⟩
  · exact Or.inl (by rw [hstate])
  · rw [hstate, result_assign]
    split
    next ht =>
      obtain ⟨st, hs, hst, _⟩ := picked_queued sound hw
      have before := lapse t
      rw [ht, sound.standing_queued hs hst] at before
      exact Or.inr ⟨ht ▸ congrArg Prod.snd before.queued, _, rfl, rfl⟩
    next => exact Or.inl rfl

theorem get?_tick (h : m.Sound) (strategy : Strategy α) (gate : Gate) (settings : ManagerSettings)
    (now : Time) (t : Ticket) :
    (m.tick strategy gate settings now).state.tickets.get? t =
        (m.expire settings now).state.tickets.get? t ∨
      (m.expire settings now).state.status? t = some .queued ∧
        (m.tick strategy gate settings now).state.status? t = some .scheduled := by
  obtain ⟨sound, _⟩ := expire_spec settings now h
  rcases tick_cases strategy gate settings now m with ⟨_, hstate⟩ | ⟨_, w, scheduler, hw, hstate⟩
  · exact Or.inl (by rw [hstate])
  · rw [hstate, status?, status?, get?_assign sound hw]
    split
    next ht =>
      obtain ⟨st, hs, hst, _⟩ := picked_queued sound hw
      rw [ht, hs]
      exact Or.inr ⟨congrArg some hst, rfl⟩
    next => exact Or.inl rfl

variable {settings : ManagerSettings}

theorem result_tick_of_some (h : m.Sound) (hr : m.results.get? t = some r) :
    (m.tick strategy gate settings now).state.results.get? t =
      if settings.resultLifetime < elapsed r.readyAt now then none else some r := by
  rcases result_tick h strategy gate settings now t with same | ⟨unclaimed, _⟩
  · rw [same, result_expire h, hr, Option.filter_some]
    by_cases late : settings.resultLifetime < elapsed r.readyAt now
    · rw [if_pos late, if_neg (by simpa using late)]
    · rw [if_neg late, if_pos (by simpa using late)]
  · cases hr.symm.trans unclaimed

theorem age_after_tick (h : m.Sound)
    (hr : (m.tick strategy gate settings now).state.results.get? t = some r) :
    elapsed r.readyAt now ≤ settings.resultLifetime := by
  rcases result_tick h strategy gate settings now t with same | ⟨_, r', ready, hr'⟩
  · rw [same, result_expire h, Option.filter_eq_some_iff, decide_eq_true_eq] at hr
    exact hr.2
  · obtain rfl := Option.some.inj (hr.symm.trans hr')
    simp [ready, elapsed]

theorem events_tick_of_overdue (h : m.Sound) (ho : (t, r) ∈ m.overdue settings.resultLifetime now) :
    eventsOf t (m.tick strategy gate settings now).events = [unclaimed now (t, r)] := by
  obtain ⟨sound, _⟩ := expire_spec settings now h
  obtain ⟨st, hs, hst, hmodel, hswept⟩ := get?_expire_of_overdue h settings ho
  have told : eventsOf t (m.expire settings now).events = [unclaimed now (t, r)] := by
    have sweeps := sweeps_expire h settings now t
    rw [standing_eq hs, hst, hmodel, (mem_overdue.mp ho).1, standing_eq hswept] at sweeps
    generalize eventsOf t (m.expire settings now).events = es at sweeps ⊢
    generalize (m.expire settings now).state.results.get? t = r? at sweeps
    change Sweeps t now _ (some (.expired, st.model), r?) es at sweeps
    rw [hmodel] at sweeps
    cases sweeps
    rfl
  rcases tick_told h strategy gate settings now with ⟨_, heq⟩ | ⟨w, scheduler, _, hw, heq⟩
  · rw [heq]
    exact told
  · obtain ⟨st', hs', hst', _⟩ := picked_queued sound hw
    have other : t ≠ w.task.ticket := by
      intro ht
      rw [← ht, hswept, Option.some.injEq] at hs'
      rw [← hs'] at hst'
      cases hst'
    rw [heq, eventsOf_append, told, eventsOf_other rfl other]
    rfl

/-- The ticket of an overdue result expires; the pass reports this of it and nothing else. Its slot is
returned in the sweep. -/
theorem tick_of_overdue (h : m.Sound) (ho : (t, r) ∈ m.overdue settings.resultLifetime now) :
    ∃ st, m.tickets.get? t = some st ∧
      (m.tick strategy gate settings now).state.tickets.get? t = some (st.ended .expired now) ∧
      eventsOf t (m.tick strategy gate settings now).events = [unclaimed now (t, r)] ∧
      m.slotOf t = some r.key.model ∧ (m.expire settings now).state.slotOf t = none := by
  obtain ⟨st, hs, hst, hmodel, hswept⟩ := get?_expire_of_overdue h settings ho
  refine ⟨st, hs, ?_, events_tick_of_overdue h ho, ?_, ?_⟩
  · rcases get?_tick h strategy gate settings now t with same | ⟨queued, _⟩
    · exact same.trans hswept
    · cases (status_of_get? hswept).symm.trans queued
  · exact mem_holders_iff_slotOf.mp (h.accounted.mem_holders.mpr ⟨st, hs, hst, hmodel⟩)
  · rw [slotOf, hswept]
    rfl

theorem overdue_of_event (h : m.Sound) {model : String} {error : Option String} {at_ : Time}
    (he : .complete t model .expired error at_ ∈ (m.tick strategy gate settings now).events) :
    ∃ r, (t, r) ∈ m.overdue settings.resultLifetime now := by
  have swept : .complete t model .expired error at_ ∈ (m.expire settings now).events := by
    rcases tick_told h strategy gate settings now with ⟨_, heq⟩ | ⟨w, _, _, _, heq⟩
    · rw [heq] at he
      exact he
    · rw [heq] at he
      rcases List.mem_append.mp he with he | he
      · exact he
      · cases List.mem_singleton.mp he
  rw [(expire_told h settings now).1] at swept
  obtain ⟨⟨x, r⟩, hm, heq⟩ := List.mem_map.mp swept
  cases heq
  exact ⟨r, hm⟩

theorem overdue_of_expired (h : m.Sound)
    (hst : (m.tick strategy gate settings now).state.status? t = some .expired) :
    m.status? t = some .expired ∨ ∃ r, (t, r) ∈ m.overdue settings.resultLifetime now := by
  rcases get?_tick h strategy gate settings now t with same | ⟨_, scheduled⟩
  · rw [status?, same] at hst
    exact status_expire h settings now hst
  · cases hst.symm.trans scheduled

theorem answer_tick_iff (h : m.Sound) : (m.tick strategy gate settings now).answer = true ↔
    ∃ key, gate.Servable (m.expire settings now).state.workTable m.scheduler.queue key := by
  obtain ⟨_, _, same, _⟩ := expire_spec settings now h
  rw [← same]
  rcases tick_told h strategy gate settings now with ⟨nothing, heq⟩ | ⟨w, _, servable, _, heq⟩
  · simp [heq, nothing]
  · simp only [heq, true_iff]
    exact ⟨w.key, servable⟩

theorem get?_tick_eq_none_iff (h : m.Sound) (hs : m.tickets.get? t = some s) :
    (m.tick strategy gate settings now).state.tickets.get? t = none ↔
      ∃ at_, s.finishedAt = some at_ ∧ settings.resultLifetime < elapsed at_ now := by
  rw [← get?_expire_eq_none_iff h settings now hs]
  rcases get?_tick h strategy gate settings now t with same | ⟨queued, scheduled⟩
  · rw [same]
  · obtain ⟨_, hswept, _⟩ := Option.map_eq_some_iff.mp queued
    obtain ⟨_, hafter, _⟩ := Option.map_eq_some_iff.mp scheduled
    simp [hswept, hafter]

theorem get?_tick_of_queued (h : m.Sound) (hs : m.tickets.get? t = some s)
    (hst : s.status = .queued) : (m.expire settings now).state.tickets.get? t = some s ∧
      ((m.tick strategy gate settings now).state.tickets.get? t = some s ∨
        (m.tick strategy gate settings now).state.status? t = some .scheduled) := by
  have kept := get?_expire_of_active h settings now hs (by rw [hst]; rfl)
    (congrArg Prod.snd (h.standing_queued hs hst))
  refine ⟨kept, ?_⟩
  rcases get?_tick h strategy gate settings now t with same | ⟨_, scheduled⟩
  · exact Or.inl (same.trans kept)
  · exact Or.inr scheduled

theorem get?_tick_of_claimed (h : m.Sound) (hs : m.tickets.get? t = some s)
    (hst : s.status = .scheduled) (claimed : m.results.get? t = none) :
    (m.tick strategy gate settings now).state.tickets.get? t = some s := by
  have kept := get?_expire_of_active h settings now hs (by rw [hst]; rfl) claimed
  rcases get?_tick h strategy gate settings now t with same | ⟨queued, _⟩
  · exact same.trans kept
  · cases hst.symm.trans (Option.some.inj ((status_of_get? kept).symm.trans queued))

end Tick

section Run

variable {α : Type} [OfScientific α] [Add α] [Sub α] [Mul α] [LE α] [LT α]
  [DecidableLE α] [DecidableLT α] {strategy : Strategy α} {settings : ManagerSettings}
  {start : Time} {s : Clocked Manager} {turns : List (Turn (Clocked Manager) Call Answer)}

/-- In every state that a run reaches, a pass drops the results that have waited longer than the lifetime,
and no others. The ticket of each expires, this is all that is reported of it, and its slot is free before
the pass schedules, which it does exactly if some key may be served from the slots that are free then. The
tickets that ended longer ago than the lifetime are forgotten, and no others; a queued ticket stays or is
scheduled, and one whose result was claimed stays as it is. -/
theorem expiry_is_exact (run : Run (Call.perform strategy settings) ⟨start, empty⟩ turns s)
    (gate : Gate) :
    let m := s.state
    let overdue := m.overdue settings.resultLifetime s.now
    let swept := (m.expire settings s.now).state
    let pass := m.tick strategy gate settings s.now
    (∀ t r, m.results.get? t = some r → pass.state.results.get? t =
      if settings.resultLifetime < elapsed r.readyAt s.now then none else some r) ∧
    (∀ t r, pass.state.results.get? t = some r →
      elapsed r.readyAt s.now ≤ settings.resultLifetime) ∧
    (∀ t r, (t, r) ∈ overdue → ∃ st, m.tickets.get? t = some st ∧
      pass.state.tickets.get? t = some (st.ended .expired s.now) ∧
      eventsOf t pass.events = [.complete t r.key.model .expired none s.now] ∧
      m.slotOf t = some r.key.model ∧ swept.slotOf t = none) ∧
    (∀ t model error at_, .complete t model .expired error at_ ∈ pass.events →
      ∃ r, (t, r) ∈ overdue) ∧
    (∀ t, pass.state.status? t = some .expired →
      m.status? t = some .expired ∨ ∃ r, (t, r) ∈ overdue) ∧
    (∀ model, swept.slots.total model = m.slots.total model ∧
      swept.slots.busy model + overdue.countP (fun x => x.2.key.model = model) =
        m.slots.busy model) ∧
    (pass.answer = true ↔ ∃ key, gate.Servable swept.workTable m.scheduler.queue key) ∧
    (∀ t st, m.tickets.get? t = some st → (pass.state.tickets.get? t = none ↔
      ∃ at_, st.finishedAt = some at_ ∧ settings.resultLifetime < elapsed at_ s.now)) ∧
    (∀ t st, m.tickets.get? t = some st → st.status = .queued → swept.tickets.get? t = some st ∧
      (pass.state.tickets.get? t = some st ∨ pass.state.status? t = some .scheduled)) ∧
    (∀ t st, m.tickets.get? t = some st → st.status = .scheduled → m.results.get? t = none →
      pass.state.tickets.get? t = some st) := by
  have h := sound_of_run run sound_empty
  exact ⟨fun _ _ => result_tick_of_some h, fun _ _ => age_after_tick h, fun _ _ => tick_of_overdue h,
    fun _ _ _ _ => overdue_of_event h, fun _ => overdue_of_expired h,
    (expire_told h settings s.now).2, answer_tick_iff h, fun _ _ => get?_tick_eq_none_iff h,
    fun _ _ => get?_tick_of_queued h, fun _ _ => get?_tick_of_claimed h⟩

/-- Two results of a model expire together, while the third has just reached the lifetime and stays; the
pass forgets a request that ended in time before, and gives the one that waits a slot that came free. -/
theorem two_of_three_expire : ∃ turns s,
    Run (Call.perform (.firstCome : Strategy Double) ⟨1, 1⟩) ⟨0, empty⟩ turns s ∧
      (s.state.overdue 1 s.now).map Prod.fst = [1, 2] ∧ s.state.slots.busy "m" = 3 ∧
      (s.state.expire ⟨1, 1⟩ s.now).state.slots.busy "m" = 1 ∧
      let pass := s.state.tick (.firstCome : Strategy Double) .unguarded ⟨1, 1⟩ s.now
      (pass.state.results.get? 3).isSome ∧ pass.state.tickets.get? 5 = none ∧ pass.answer = true := by
  let request : Call := .add "" [⟨"m", "p", 1, .normal⟩]
  have played : ((play (Call.perform (.firstCome : Strategy Double) ⟨1, 1⟩)
      [.registerModel "m" 2, request, request, request, request, .add "" [⟨"n", "p", 1, .normal⟩],
        .tick .unguarded, .tick .unguarded, .tick .unguarded, .complete 5 .success,
        .registerModel "m" 3, .advance 1, .tick .unguarded, .advance 1] ⟨0, empty⟩).toOption.map
      fun r => decide ((r.2.state.overdue 1 r.2.now).map Prod.fst = [1, 2] ∧
        (r.2.state.overdue 1 r.2.now).countP (fun x => x.2.key.model = "m") = 2 ∧
        r.2.state.slots.busy "m" = 3 ∧ r.2.now = 2 ∧
        (r.2.state.results.get? 3).map Result.readyAt = some 1 ∧
        (r.2.state.tickets.get? 5).map TicketState.finishedAt = some (some 0) ∧
        (r.2.state.tick (.firstCome : Strategy Double) .unguarded ⟨1, 1⟩ r.2.now).answer = true)) =
      some true := by decide +kernel
  obtain ⟨turns, s, run, hview⟩ := Run.exists_of_play played
  obtain ⟨late, both, busy, now, fresh, ended, answered⟩ := of_decide_eq_true hview
  obtain ⟨kept, _, _, _, _, slots, _, forgotten, _⟩ := expiry_is_exact run .unguarded
  obtain ⟨r, hr, ready⟩ := Option.map_eq_some_iff.mp fresh
  obtain ⟨st, hs, finished⟩ := Option.map_eq_some_iff.mp ended
  have returned := (slots "m").2
  rw [busy, both] at returned
  refine ⟨turns, s, run, late, busy, Nat.add_right_cancel returned, ?_, ?_, answered⟩
  · rw [kept 3 r hr, ready, now]
    rfl
  · exact (forgotten 5 st hs).mpr ⟨0, finished, by rw [now]; decide⟩

end Run

end Manager

end InferenceDispatch
