import InferenceDispatch.Proofs.Manager.Steps

namespace InferenceDispatch

def TicketState.fresh (task : TaskId) : TicketState := ⟨task, .queued, none, false, none⟩

namespace Manager

variable {m : Manager} {t : Ticket} {candidates : List Candidate}

theorem Sound.get?_of_lt (h : m.Sound) (ht : m.issued < t) : m.tickets.get? t = none := by
  cases hs : m.tickets.get? t with
  | none => rfl
  | some s => exact absurd (h.known t s hs) (Nat.not_le_of_lt ht)

/-- What a request that is let in adds to the manager: the next ticket, and entries of a new task for
some of its candidates, at least one. -/
structure Adds (m : Manager) (payload : Payload) (candidates : List Candidate) (m' : Manager)
    (new : List Entry) : Prop where
  issued : m'.issued = m.issued + 1
  results : m'.results = m.results
  busy : ∀ model, m'.slots.busy model = m.slots.busy model
  tickets : ∀ x, m'.tickets.get? x = if x = m.issued + 1 then
    some (TicketState.fresh (m.scheduler.issued + 1)) else m.tickets.get? x
  exact : m'.scheduler.Exact
  numbers : m'.scheduler.issued = m.scheduler.issued + 1
  entries : m'.scheduler.queue.entries = m.scheduler.queue.entries ++ new
  nonempty : new ≠ []
  task : ∀ e ∈ new, e.task = ⟨m.scheduler.issued + 1, m.issued + 1, payload, candidates⟩
  key : ∀ e ∈ new, ∃ c ∈ candidates, e.key = ⟨c.model, c.provider⟩

theorem adds (h : m.Sound) (settings : ManagerSettings) (now : Time) (payload : Payload)
    (hne : candidates ≠ []) :
    (m.add settings now payload candidates).answer = .ok (m.issued + 1) ∧
      ∃ new, Adds m payload candidates (m.add settings now payload candidates).state new := by
  let task : Task := ⟨m.scheduler.issued + 1, m.issued + 1, payload, candidates⟩
  have exact : Scheduler.Exact { m.scheduler with issued := m.scheduler.issued + 1 } :=
    ⟨h.linked.exact.filed, h.linked.exact.waiting, h.linked.exact.oneTask⟩
  have fresh : ∀ e ∈ m.scheduler.queue.entries, e.task.id ≠ task.id := by
    intro e he hid
    have hle := h.linked.tasks e he
    rw [hid] at hle
    exact Nat.not_succ_le_self _ hle
  obtain ⟨exact', issued', new, he, _, hlen, hnew⟩ := Scheduler.enqueue_spec exact now fresh
  have nonempty : new ≠ [] := by
    rintro rfl
    exact hne (List.length_eq_zero_iff.mp hlen.symm)
  have admitted : m.add settings now payload candidates = _ := if_neg (by simpa using hne)
  rw [admitted]
  exact ⟨rfl, new, rfl, rfl, fun _ => SlotTable.busy_foldl_ensure .., fun _ => Table.get?_insert ..,
    exact', issued', he, nonempty, fun e he => (hnew e he).1, fun e he => (hnew e he).2⟩

namespace Adds

variable {m' : Manager} {payload : Payload} {new : List Entry} (h : m.Sound)
  (a : Adds m payload candidates m' new)
include h a

theorem linked : m'.Linked := by
  have waiting : ∀ x, m'.waitingTask x =
      if x = m.issued + 1 then some (m.scheduler.issued + 1) else m.waitingTask x := by
    intro x
    unfold waitingTask
    rw [a.tickets]
    split <;> rfl
  refine ⟨a.exact, ?_, ?_, ?_, ?_⟩
  · intro e he
    rw [a.entries] at he
    rw [a.numbers]
    rcases List.mem_append.mp he with he | he
    · exact Nat.le_succ_of_le (h.linked.tasks e he)
    · exact Nat.le_of_eq (congrArg Task.id (a.task e he))
  · intro e he
    rw [a.entries] at he
    rcases List.mem_append.mp he with he | he
    · exact h.linked.keys e he
    · rw [a.task e he]
      exact a.key e he
  · intro e he
    rw [a.entries] at he
    rw [waiting]
    rcases List.mem_append.mp he with he | he
    · have hw := h.linked.waiting e he
      have old : e.task.ticket ≠ m.issued + 1 := by
        intro ht
        rw [ht, waitingTask, h.get?_of_lt (Nat.lt_succ_self m.issued)] at hw
        cases hw
      rw [if_neg old, hw]
    · rw [a.task e he, if_pos rfl]
  · intro x task hx
    rw [waiting] at hx
    rw [a.entries]
    split at hx
    next hnext =>
      obtain ⟨e, he⟩ := List.exists_mem_of_ne_nil new a.nonempty
      exact ⟨e, List.mem_append_right _ he, by rw [a.task e he, hnext]⟩
    next =>
      obtain ⟨e, he, ht⟩ := h.linked.queued x task hx
      exact ⟨e, List.mem_append_left _ he, ht⟩

theorem accounted : m'.Accounted := by
  refine h.accounted.keep ?_ ?_ (fun x r hr => a.results ▸ hr) a.busy
  · intro x s hs
    rw [a.tickets] at hs
    split at hs
    next =>
      cases hs
      exact ⟨by simp [TicketState.fresh], by simp [TicketState.fresh],
        by simp [TicketState.fresh, Status.isTerminal]⟩
    next => exact h.accounted.states x s hs
  · intro x s hst
    by_cases hx : x = m.issued + 1
    · refine scheduled_iff_of_status ?_ ?_ hst
      · rw [status?, hx, h.get?_of_lt (Nat.lt_succ_self m.issued)]
        simp
      · rw [status?, a.tickets, if_pos hx]
        simp [TicketState.fresh]
    · rw [a.tickets, if_neg hx]

theorem sound : m'.Sound where
  known := by
    intro x s hs
    rw [a.tickets] at hs
    rw [a.issued]
    split at hs
    next hx => exact Nat.le_of_eq hx
    next => exact Nat.le_succ_of_le (h.known x s hs)
  linked := a.linked h
  accounted := a.accounted h

theorem standing (x : Ticket) :
    x = m.issued + 1 ∧ m.standing x = (none, none) ∧ m'.standing x = (some (.queued, none), none) ∨
      x ≠ m.issued + 1 ∧ m'.standing x = m.standing x := by
  by_cases hx : x = m.issued + 1
  · have unknown := h.get?_of_lt (Nat.lt_succ_self m.issued)
    have no_result : m.results.get? x = none := h.accounted.result_none (by
      rw [status?, hx, unknown]
      simp)
    refine Or.inl ⟨hx, ?_, ?_⟩
    · rw [Manager.standing, no_result, hx, unknown, Option.map_none]
    · rw [standing_eq (by rw [a.tickets, if_pos hx]), a.results, no_result]
      rfl
  · refine Or.inr ⟨hx, ?_⟩
    unfold Manager.standing
    rw [a.tickets, if_neg hx, a.results]

end Adds

theorem step_add (h : m.Sound) (settings : ManagerSettings) (now : Time) (payload : Payload)
    (candidates : List Candidate) :
    Step m (.add payload candidates) (.admitted (m.add settings now payload candidates).answer)
      (m.add settings now payload candidates).state := by
  by_cases hne : candidates = []
  · subst hne
    exact .quiet h rfl (fun _ => rfl) rfl rfl
  · obtain ⟨answered, new, a⟩ := adds h settings now payload hne
    rw [answered]
    refine ⟨a.sound h, Or.inr ⟨by rw [a.issued]; rfl, a.issued⟩, fun x => ?_⟩
    rcases a.standing h x with ⟨rfl, before, after⟩ | ⟨hx, same⟩
    · rw [before, after]
      exact .issued
    · rw [same]
      exact .stays (by simpa [Answer.issued] using hx) (by simp [Answer.handed])

end Manager

end InferenceDispatch
