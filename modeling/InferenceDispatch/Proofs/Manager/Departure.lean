import InferenceDispatch.Proofs.Manager.Steps

namespace InferenceDispatch

namespace Manager

variable {m : Manager} {t : Ticket} {s : TicketState} {now : Time}

theorem sound_cancel (h : m.Sound) (hs : m.tickets.get? t = some s) (hst : s.status = .queued) :
    Sound { m with scheduler := (m.scheduler.cancel s.task).1, tickets := m.tickets.erase t } := by
  obtain ⟨exact, issued, entries⟩ := Scheduler.cancel_spec h.linked.exact s.task
  have hw : m.waitingTask t = some s.task := waitingTask_eq_some.mpr ⟨s, hs, hst, rfl⟩
  obtain ⟨e, he, rfl⟩ := h.linked.queued t s.task hw
  have own : e.task.id = s.task := by
    rw [h.linked.waiting e he] at hw
    exact Option.some.inj hw
  refine ⟨?_, h.linked.without he exact issued (own ▸ entries) ?_, h.accounted.keep ?_ ?_
    (fun _ _ hr => hr) fun _ => rfl⟩
  · intro x sx hx
    rw [Table.get?_erase] at hx
    split at hx
    next => cases hx
    next => exact h.known x sx hx
  · intro x
    unfold waitingTask
    rw [Table.get?_erase]
    split <;> rfl
  · intro x sx hx
    rw [Table.get?_erase] at hx
    split at hx
    next => cases hx
    next => exact h.accounted.states x sx hx
  · intro x sx hsched
    by_cases hx : x = e.task.ticket
    · refine scheduled_iff_of_status ?_ ?_ hsched
      · rw [status?, hx, hs, Option.map_some, hst]
        simp
      · rw [status?, Table.get?_erase, if_pos hx]
        simp
    · rw [Table.get?_erase, if_neg hx]

theorem step_cancel (h : m.Sound) (t : Ticket) :
    Step m (.cancel t) (.cancelled (m.cancel t).2) (m.cancel t).1 := by
  unfold cancel
  split
  next s hs =>
    split
    next hst =>
      have sound := sound_cancel h hs hst
      refine .single (t := t) sound rfl rfl (by simp [Answer.handed]) ?_ ?_
      · intro x hx
        unfold standing
        rw [Table.get?_erase, if_neg hx]
      · have before := h.standing_queued hs hst
        have no_result := (Prod.mk.inj before).2
        rw [before]
        unfold standing
        rw [Table.get?_erase, if_pos rfl, no_result]
        exact .cancelled
    next => exact .quiet h rfl (fun _ => rfl) rfl rfl
  next => exact .quiet h rfl (fun _ => rfl) rfl rfl

theorem step_move (h : m.Sound) {entry : EntryId} {tier : Priority} {queue : Queue} {there : Bool}
    (hm : m.scheduler.queue.move entry tier now = .ok (queue, there)) :
    Step m (.move entry tier) (.moved there)
      { m with scheduler := { m.scheduler with queue } } := by
  obtain ⟨exact, entries⟩ := Scheduler.move_spec h.linked.exact hm
  have linked : Linked { m with scheduler := { m.scheduler with queue } } := by
    refine h.linked.of_fewer exact rfl ?_ fun x task => ?_
    · intro e' he'
      obtain ⟨e, he, rfl⟩ := List.mem_map.mp (entries ▸ he')
      exact ⟨e, he, (Queue.moved_task ..).symm, (Queue.moved_key ..).symm⟩
    · refine ⟨fun hw => ⟨hw, ?_⟩, And.left⟩
      obtain ⟨e, he, rfl⟩ := h.linked.queued x task hw
      exact ⟨Queue.moved entry tier now e, entries ▸ List.mem_map_of_mem he,
        by rw [Queue.moved_task]⟩
  exact .quiet ⟨h.known, linked, h.accounted.keep h.accounted.states (fun _ _ _ => Iff.rfl)
    (fun _ _ hr => hr) fun _ => rfl⟩ rfl (fun _ => rfl) rfl rfl

/-- Failing the tickets of several tasks, all of them known, fails just these. -/
theorem orphans_spec (now : Time) (tasks : List Task) (e : Effect Manager (List Ticket))
    (known : ∀ task ∈ tasks, ∃ s, e.state.tickets.get? task.ticket = some s) :
    let e' := tasks.foldl (fun e task => e.andThen fun failed m =>
      (m.orphan now task).map fun t => failed ++ t.toList) e
    e'.answer = e.answer ++ tasks.map Task.ticket ∧
      e'.state = { e.state with tickets := e'.state.tickets } ∧
      ∀ x, e'.state.tickets.get? x = if x ∈ tasks.map Task.ticket then
        (e.state.tickets.get? x).map fun s => { s with status := .failed, finishedAt := some now }
      else e.state.tickets.get? x := by
  induction tasks generalizing e with
  | nil => exact ⟨(List.append_nil _).symm, rfl, fun _ => rfl⟩
  | cons task tasks ih =>
    obtain ⟨s, hs⟩ := known task List.mem_cons_self
    let failed : TicketState := { s with status := .failed, finishedAt := some now }
    generalize hnext : (e.andThen fun failed m =>
      (m.orphan now task).map fun t => failed ++ t.toList) = next
    have hanswer : next.answer = e.answer ++ [task.ticket] := by
      rw [← hnext, Effect.andThen, orphan, hs]
      rfl
    have hstate : next.state =
        { e.state with tickets := e.state.tickets.insert task.ticket failed } := by
      rw [← hnext, Effect.andThen, orphan, hs]
      rfl
    have hget : ∀ x, next.state.tickets.get? x =
        if x = task.ticket then some failed else e.state.tickets.get? x := by
      intro x
      rw [hstate, Table.get?_insert]
    obtain ⟨answer, state, tickets⟩ := ih next fun o ho => by
      rw [hget]
      split
      next => exact ⟨_, rfl⟩
      next => exact known o (List.mem_cons_of_mem _ ho)
    rw [List.foldl_cons, hnext]
    refine ⟨?_, ?_, fun x => ?_⟩
    · rw [answer, hanswer, List.append_assoc, List.singleton_append, List.map_cons]
    · rw [state, hstate]
    · rw [tickets, hget]
      by_cases hx : x = task.ticket
      · simp [hx, hs, failed]
      · simp [hx]

theorem mem_orphans (h : m.Sound) (provider : String) (x : Ticket) :
    x ∈ (m.scheduler.withdraw provider).2.map Task.ticket ↔
      (∃ task, m.waitingTask x = some task) ∧
        ¬∃ e ∈ (m.scheduler.withdraw provider).1.queue.entries, e.task.ticket = x := by
  obtain ⟨_, _, entries, _, mem⟩ := Scheduler.withdraw_spec h.linked.exact provider
  have old : ∀ e ∈ (m.scheduler.withdraw provider).1.queue.entries,
      e ∈ m.scheduler.queue.entries := fun e he => List.mem_of_mem_filter (entries ▸ he)
  constructor
  · intro hx
    obtain ⟨task, ht, rfl⟩ := List.mem_map.mp hx
    obtain ⟨⟨e, he, rfl⟩, none_left⟩ := (mem task).mp ht
    refine ⟨⟨_, h.linked.waiting e he⟩, ?_⟩
    rintro ⟨o, ho, hticket⟩
    exact none_left o ho ((h.linked.same_ticket_iff (old o ho) he).mpr hticket)
  · rintro ⟨⟨task, hw⟩, none_left⟩
    obtain ⟨e, he, rfl⟩ := h.linked.queued x task hw
    refine List.mem_map_of_mem ((mem e.task).mpr ⟨⟨e, he, rfl⟩, fun o ho hid => none_left ?_⟩)
    exact ⟨o, ho, (h.linked.same_ticket_iff (old o ho) he).mp hid⟩

/-- Withdrawing a provider fails the tickets that lose their last entry, and no others. -/
theorem withdraw_spec (h : m.Sound) (now : Time) (provider : String) :
    let orphans := (m.scheduler.withdraw provider).2.map Task.ticket
    let e := m.withdraw now provider
    e.answer = orphans ∧ e.state = { m with
      scheduler := (m.scheduler.withdraw provider).1, tickets := e.state.tickets } ∧
      ∀ x, e.state.tickets.get? x = if x ∈ orphans then
        (m.tickets.get? x).map fun s => { s with status := .failed, finishedAt := some now }
      else m.tickets.get? x := by
  refine orphans_spec now (m.scheduler.withdraw provider).2
    (.answerOnly { m with scheduler := (m.scheduler.withdraw provider).1 } []) fun task ht => ?_
  obtain ⟨⟨_, hw⟩, _⟩ := (mem_orphans h provider task.ticket).mp (List.mem_map_of_mem ht)
  obtain ⟨s, hs, _⟩ := waitingTask_eq_some.mp hw
  exact ⟨s, hs⟩

section Withdraw

variable (h : m.Sound) (now : Time) (provider : String)
include h

theorem queued_of_orphan {x : Ticket}
    (hx : x ∈ (m.scheduler.withdraw provider).2.map Task.ticket) :
    ∃ s, m.tickets.get? x = some s ∧ s.status = .queued := by
  obtain ⟨⟨_, hw⟩, _⟩ := (mem_orphans h provider x).mp hx
  obtain ⟨s, hs, hst, _⟩ := waitingTask_eq_some.mp hw
  exact ⟨s, hs, hst⟩

theorem linked_withdraw : (m.withdraw now provider).state.Linked := by
  obtain ⟨_, hstate, tickets⟩ := withdraw_spec h now provider
  obtain ⟨exact, issued, entries, _⟩ := Scheduler.withdraw_spec h.linked.exact provider
  have hscheduler := congrArg Manager.scheduler hstate
  have waiting : ∀ x, (m.withdraw now provider).state.waitingTask x =
      if x ∈ (m.scheduler.withdraw provider).2.map Task.ticket then none else m.waitingTask x := by
    intro x
    unfold waitingTask
    rw [tickets]
    split
    next => cases m.tickets.get? x <;> rfl
    next => rfl
  refine h.linked.of_fewer (hscheduler ▸ exact) (hscheduler ▸ issued) ?_ ?_
  · intro e he
    rw [hscheduler] at he
    exact ⟨e, List.mem_of_mem_filter (entries ▸ he), rfl, rfl⟩
  · intro x task
    rw [waiting, hscheduler]
    split
    next hx =>
      have none_left := ((mem_orphans h provider x).mp hx).2
      simp only [reduceCtorEq, false_iff, not_and]
      exact fun _ => none_left
    next hx =>
      refine ⟨fun hw => ⟨hw, ?_⟩, And.left⟩
      by_contra none_left
      exact hx ((mem_orphans h provider x).mpr ⟨⟨task, hw⟩, none_left⟩)

theorem accounted_withdraw : (m.withdraw now provider).state.Accounted := by
  obtain ⟨_, hstate, tickets⟩ := withdraw_spec h now provider
  refine h.accounted.keep ?_ ?_ (fun x r hr => congrArg Manager.results hstate ▸ hr)
    fun _ => congrArg Manager.slots hstate ▸ rfl
  · intro x s hs
    rw [tickets] at hs
    split at hs
    next hx =>
      obtain ⟨s₀, hs₀, hst₀⟩ := queued_of_orphan h provider hx
      have holds := (h.accounted.states x s₀ hs₀).holds
      rw [hs₀] at hs
      cases hs
      exact ⟨by simpa [hst₀] using holds, by simp, by simp [Status.isTerminal]⟩
    next => exact h.accounted.states x s hs
  · intro x s hsched
    by_cases hx : x ∈ (m.scheduler.withdraw provider).2.map Task.ticket
    · obtain ⟨s₀, hs₀, hst₀⟩ := queued_of_orphan h provider hx
      refine scheduled_iff_of_status ?_ ?_ hsched
      · rw [status?, hs₀, Option.map_some, hst₀]
        simp
      · rw [status?, tickets, if_pos hx, hs₀]
        simp
    · rw [tickets, if_neg hx]

theorem sound_withdraw : (m.withdraw now provider).state.Sound where
  known := by
    obtain ⟨_, hstate, tickets⟩ := withdraw_spec h now provider
    intro x s hs
    rw [congrArg Manager.issued hstate]
    rw [tickets] at hs
    split at hs
    next =>
      obtain ⟨s, hs, _⟩ := Option.map_eq_some_iff.mp hs
      exact h.known x s hs
    next => exact h.known x s hs
  linked := linked_withdraw h now provider
  accounted := accounted_withdraw h now provider

theorem step_withdraw :
    Step m (.withdraw provider) (.withdrawn (m.withdraw now provider).answer)
      (m.withdraw now provider).state := by
  obtain ⟨answered, hstate, tickets⟩ := withdraw_spec h now provider
  have issued := congrArg Manager.issued hstate
  have results := congrArg Manager.results hstate
  refine ⟨sound_withdraw h now provider, Or.inl ⟨rfl, issued⟩, fun x => ?_⟩
  by_cases hx : x ∈ (m.scheduler.withdraw provider).2.map Task.ticket
  · obtain ⟨s, hs, hst⟩ := queued_of_orphan h provider hx
    have before := h.standing_queued hs hst
    have ended := tickets x
    rw [if_pos hx, hs, Option.map_some] at ended
    rw [before, standing_eq ended, results, (Prod.mk.inj before).2]
    exact .orphaned (answered ▸ hx)
  · have same : (m.withdraw now provider).state.standing x = m.standing x := by
      unfold standing
      rw [tickets, if_neg hx, results]
    rw [same]
    exact .stays (by simp [Answer.issued]) (by simp [Answer.handed])

end Withdraw

end Manager

end InferenceDispatch
