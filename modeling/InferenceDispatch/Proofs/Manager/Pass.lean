import InferenceDispatch.Proofs.Manager.Steps

namespace InferenceDispatch

namespace Manager

variable {m : Manager} {now : Time}

variable {α : Type} [OfScientific α] [Add α] [Sub α] [Mul α] [LE α] [LT α]
  [DecidableLE α] [DecidableLT α] {strategy : Strategy α} {gate : Gate}

/-- The result laid out for a scheduled entry. -/
def resultOf (w : Scheduled) (now : Time) : Result := ⟨w.task, w.key, w.priority, w.waited, now⟩

section Pass

variable {w : Scheduled} {scheduler : Scheduler} (h : m.Sound)
  (hw : m.scheduler.schedule strategy gate m.workTable now = some (w, scheduler))
include h hw

theorem picked_queued : ∃ s, m.tickets.get? w.task.ticket = some s ∧ s.status = .queued ∧
    0 < m.slots.workTable.available w.key.model := by
  obtain ⟨_, _, e, he, heligible, rfl, _⟩ := Scheduler.schedule_spec h.linked.exact hw
  obtain ⟨s, hs, hst, _⟩ := waitingTask_eq_some.mp (h.linked.waiting e he)
  refine ⟨s, hs, hst, ?_⟩
  exact of_decide_eq_true (Bool.and_eq_true_iff.mp heligible).1

theorem get?_assign (x : Ticket) : ({ m with scheduler }.assign now w).state.tickets.get? x =
    if x = w.task.ticket then (m.tickets.get? x).map fun s =>
      { s with status := .scheduled, model := some w.key.model, holdsSlot := true }
    else m.tickets.get? x := by
  obtain ⟨_, _, _, free⟩ := picked_queued h hw
  have taken := congrArg Prod.snd (SlotTable.take_eq free)
  unfold assign
  simp only [taken]
  exact Table.get?_modify ..

omit h hw in
theorem result_assign (x : Ticket) : ({ m with scheduler }.assign now w).state.results.get? x =
    if x = w.task.ticket then some (resultOf w now) else m.results.get? x :=
  SortedMap.get?_insert ..

theorem linked_assign : ({ m with scheduler }.assign now w).state.Linked := by
  have hget := get?_assign h hw
  obtain ⟨exact, issued, e, he, _, rfl, entries⟩ := Scheduler.schedule_spec h.linked.exact hw
  refine h.linked.without he exact issued entries fun x => ?_
  unfold waitingTask
  rw [hget]
  split
  next => cases m.tickets.get? x <;> rfl
  next => rfl

theorem mem_holders_assign (other : String) (x : Ticket) :
    x ∈ ({ m with scheduler }.assign now w).state.holders other ↔
      x = w.task.ticket ∧ other = w.key.model ∨ x ∈ m.holders other := by
  obtain ⟨s, hs, hst, _⟩ := picked_queued h hw
  rw [Manager.mem_holders, get?_assign h hw]
  by_cases hx : x = w.task.ticket
  · rw [if_pos hx, hx, hs, Option.map_some]
    constructor
    · rintro ⟨_, hs', _, hm⟩
      cases hs'
      exact Or.inl ⟨rfl, (Option.some.inj hm).symm⟩
    · rintro (⟨_, rfl⟩ | holds)
      · exact ⟨_, rfl, rfl, rfl⟩
      · obtain ⟨s', hs', hst', _⟩ := h.accounted.mem_holders.mp holds
        rw [hs] at hs'
        cases hs'
        rw [hst] at hst'
        cases hst'
  · rw [if_neg hx, ← Manager.mem_holders]
    simp [hx]

theorem busy_assign (other : String) : ({ m with scheduler }.assign now w).state.slots.busy other =
    (({ m with scheduler }.assign now w).state.holders other).length := by
  obtain ⟨s, hs, hst, free⟩ := picked_queued h hw
  have before : w.task.ticket ∉ m.holders other := by
    rw [h.accounted.mem_holders]
    simp [hs, hst]
  have mem := mem_holders_assign h hw other
  refine (SlotTable.busy_take free other).trans ?_
  rw [h.accounted.busy]
  split
  next ho => exact (length_holders_succ before fun x => by rw [mem, and_iff_left ho]).symm
  next ho => exact (length_holders_congr fun x => by simp only [mem, ho, and_false, false_or]).symm

theorem accounted_assign : ({ m with scheduler }.assign now w).state.Accounted where
  states := by
    obtain ⟨s, hs, hst, _⟩ := picked_queued h hw
    intro x sx hx
    rw [get?_assign h hw] at hx
    split at hx
    next hxt =>
      rw [hxt, hs] at hx
      cases hx
      have active : s.finishedAt = none :=
        (h.accounted.states _ s hs).finished.mpr (by rw [hst]; rfl)
      exact ⟨by simp, by simp, by simp [active, Status.isTerminal]⟩
    next => exact h.accounted.states x sx hx
  results := by
    obtain ⟨s, hs, _⟩ := picked_queued h hw
    intro x r hr
    rw [result_assign] at hr
    rw [get?_assign h hw]
    split at hr
    next hxt =>
      cases hr
      exact ⟨hxt.symm, _, by rw [if_pos hxt, hxt, hs, Option.map_some], rfl, rfl⟩
    next hxt =>
      rw [if_neg hxt]
      exact h.accounted.results x r hr
  busy := busy_assign h hw

theorem sound_assign : ({ m with scheduler }.assign now w).state.Sound where
  known := by
    intro x sx hx
    rw [get?_assign h hw] at hx
    split at hx
    next =>
      obtain ⟨s, hs, _⟩ := Option.map_eq_some_iff.mp hx
      exact h.known x s hs
    next => exact h.known x sx hx
  linked := linked_assign h hw
  accounted := accounted_assign h hw

theorem standing_assign : (∃ model?, m.standing w.task.ticket = (some (.queued, model?), none)) ∧
    ∀ x, ({ m with scheduler }.assign now w).state.standing x =
      if x = w.task.ticket then (some (.scheduled, some w.key.model), some (resultOf w now))
      else m.standing x := by
  obtain ⟨s, hs, hst, _⟩ := picked_queued h hw
  constructor
  · exact ⟨s.model, h.standing_queued hs hst⟩
  · intro x
    unfold standing
    rw [get?_assign h hw, result_assign]
    split
    next hxt => rw [hxt, hs]; rfl
    next => rfl

theorem holders_assign : w.task.ticket ∈ ({ m with scheduler }.assign now w).state.holders w.key.model ∧
    ({ m with scheduler }.assign now w).state.slots.busy w.key.model ≤
      ({ m with scheduler }.assign now w).state.slots.total w.key.model := by
  obtain ⟨s, hs, _, free⟩ := picked_queued h hw
  refine ⟨?_, SlotTable.busy_take_le free⟩
  rw [Manager.mem_holders, get?_assign h hw, if_pos rfl, hs]
  exact ⟨_, rfl, rfl, rfl⟩

end Pass

/-- A pass expires what is stale, and then schedules nothing or what the scheduler picks. -/
theorem tick_cases (strategy : Strategy α) (gate : Gate) (settings : ManagerSettings) (now : Time)
    (m : Manager) :
    let swept := (m.expire settings now).state
    (m.tick strategy gate settings now).answer = false ∧
        (m.tick strategy gate settings now).state = swept ∨
      (m.tick strategy gate settings now).answer = true ∧ ∃ w scheduler,
        swept.scheduler.schedule strategy gate swept.workTable now = some (w, scheduler) ∧
        (m.tick strategy gate settings now).state = ({ swept with scheduler }.assign now w).state := by
  intro swept
  unfold tick
  simp only [Effect.answer_andThen, Effect.state_andThen]
  split
  next => exact Or.inl ⟨rfl, rfl⟩
  next =>
    split
    next => exact Or.inl ⟨rfl, rfl⟩
    next w scheduler hw => exact Or.inr ⟨rfl, w, scheduler, hw, rfl⟩

theorem Lapse.passage {before after : Standing} (h : Lapse before after)
    (t : Ticket) (gate : Gate) (scheduled : Bool) :
    Passage t (.tick gate) (.passed scheduled) before after := by
  cases h with
  | stays => exact .stays (by simp [Answer.issued]) (by simp [Answer.handed])
  | expired => exact .expired
  | forgotten terminal => exact .forgotten terminal

theorem Lapse.queued {before : Standing} {model? : Option String}
    (h : Lapse before (some (.queued, model?), none)) : before = (some (.queued, model?), none) := by
  cases h
  rfl

theorem step_tick (h : m.Sound) (strategy : Strategy α) (gate : Gate) (settings : ManagerSettings)
    (now : Time) : Step m (.tick gate) (.passed (m.tick strategy gate settings now).answer)
      (m.tick strategy gate settings now).state := by
  obtain ⟨sound, issued, _, lapse⟩ := expire_spec settings now h
  rcases tick_cases strategy gate settings now m with
    ⟨answered, hstate⟩ | ⟨answered, w, scheduler, hw, hstate⟩
  · rw [answered, hstate]
    exact ⟨sound, Or.inl ⟨rfl, issued⟩, fun x => (lapse x).passage x gate false⟩
  · rw [answered, hstate]
    obtain ⟨⟨model?, before⟩, after⟩ := standing_assign sound hw
    refine ⟨sound_assign sound hw, Or.inl ⟨rfl, issued⟩, fun x => ?_⟩
    rw [after]
    split
    next hx =>
      have hlapse := lapse x
      rw [hx, before] at hlapse
      rw [hx, hlapse.queued]
      exact .scheduled (r := resultOf w now)
    next => exact (lapse x).passage x gate true

end Manager

end InferenceDispatch
