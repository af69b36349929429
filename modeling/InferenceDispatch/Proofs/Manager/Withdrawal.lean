import InferenceDispatch.Proofs.Manager.QueuedTickets

namespace InferenceDispatch

namespace Manager

/-- The work for the providers `gone` was withdrawn, and the tickets `failed` have failed for it. -/
structure Withdrawn (gone : List String) (failed : List Ticket) (now : Time) (m m' : Manager) :
    Prop where
  sound : m'.Sound
  entries : m'.scheduler.queue.entries =
    m.scheduler.queue.entries.filter fun e => e.key.provider ∉ gone
  lanes : m'.scheduler.queue.lanes =
    m.scheduler.queue.lanes.filter fun key _ => key.provider ∉ gone
  nodup : failed.Nodup
  mem_failed : ∀ t, t ∈ failed ↔ m.status? t = some .queued ∧
    ∀ e ∈ m.scheduler.queue.entries, e.task.ticket = t → e.key.provider ∈ gone
  tickets : ∀ t, m'.tickets.get? t = if t ∈ failed then
      (m.tickets.get? t).map fun s => { s with status := .failed, finishedAt := some now }
    else m.tickets.get? t

namespace Withdrawn

variable {gone more : List String} {failed later : List Ticket} {now : Time} {m m₁ m' : Manager}
  {t : Ticket}

theorem mem_entries (w : Withdrawn gone failed now m m') {e : Entry} :
    e ∈ m'.scheduler.queue.entries ↔
      e ∈ m.scheduler.queue.entries ∧ e.key.provider ∉ gone := by
  rw [w.entries, List.mem_filter, decide_eq_true_eq]

theorem status_failed (w : Withdrawn gone failed now m m') (ht : t ∈ failed) :
    m'.status? t = some .failed := by
  obtain ⟨s, hs, _⟩ := Option.map_eq_some_iff.mp ((w.mem_failed t).mp ht).1
  rw [status?, w.tickets, if_pos ht, hs]
  rfl

theorem status_kept (w : Withdrawn gone failed now m m') (ht : t ∉ failed) :
    m'.status? t = m.status? t := by
  rw [status?, w.tickets, if_neg ht, status?]

theorem refl (h : m.Sound) (now : Time) : Withdrawn [] [] now m m where
  sound := h
  entries := by simp
  lanes := by simp [Table.filter]
  nodup := List.nodup_nil
  mem_failed := by
    intro t
    refine iff_of_false List.not_mem_nil ?_
    rintro ⟨queued, none_left⟩
    obtain ⟨e, he, ht⟩ := (h.linked.status_queued_iff t).mp queued
    exact List.not_mem_nil (none_left e he ht)
  tickets := fun t => (if_neg List.not_mem_nil).symm

/-- A ticket that outlives the first withdrawals fails in the later ones, if these take its other
entries. -/
theorem trans (first : Withdrawn gone failed now m m₁) (last : Withdrawn more later now m₁ m') :
    Withdrawn (gone ++ more) (failed ++ later) now m m' where
  sound := last.sound
  entries := by
    rw [last.entries, first.entries, List.filter_filter]
    exact List.filter_congr fun e _ => by simp [Bool.and_comm]
  lanes := by
    rw [last.lanes, first.lanes, Table.filter_filter]
    congr 1
    funext key _
    simp
  nodup := by
    refine List.nodup_append.mpr ⟨first.nodup, last.nodup, ?_⟩
    rintro t ht _ hlater rfl
    have queued := ((last.mem_failed t).mp hlater).1
    rw [first.status_failed ht] at queued
    cases queued
  mem_failed := by
    intro t
    rw [List.mem_append]
    by_cases ht : t ∈ failed
    · obtain ⟨queued, all⟩ := (first.mem_failed t).mp ht
      exact iff_of_true (Or.inl ht)
        ⟨queued, fun e he hticket => List.mem_append_left _ (all e he hticket)⟩
    · rw [or_iff_right ht, last.mem_failed, first.status_kept ht]
      refine and_congr_right fun _ => forall_congr' fun e => ?_
      rw [first.mem_entries, List.mem_append]
      constructor
      · intro left he hticket
        exact or_iff_not_imp_left.mpr fun hp => left ⟨he, hp⟩ hticket
      · rintro all ⟨he, hp⟩ hticket
        exact (all he hticket).resolve_left hp
  tickets := by
    intro t
    rw [last.tickets]
    by_cases hlater : t ∈ later
    · have queued := ((last.mem_failed t).mp hlater).1
      have ht : t ∉ failed := by
        intro ht
        rw [first.status_failed ht] at queued
        cases queued
      rw [if_pos hlater, if_pos (List.mem_append_right _ hlater), first.tickets, if_neg ht]
    · rw [if_neg hlater, first.tickets]
      simp [hlater]

end Withdrawn

variable {m : Manager}

theorem nodup_orphans (h : m.Sound) (provider : String) :
    ((m.scheduler.withdraw provider).2.map Task.ticket).Nodup := by
  obtain ⟨_, _, _, nodup, mem⟩ := Scheduler.withdraw_spec h.linked.exact provider
  refine List.pairwise_map.mpr ((List.pairwise_map.mp nodup).imp_of_mem ?_)
  intro a b ha hb hid hticket
  obtain ⟨⟨x, hx, rfl⟩, _⟩ := (mem a).mp ha
  obtain ⟨⟨y, hy, rfl⟩, _⟩ := (mem b).mp hb
  exact hid ((h.linked.same_ticket_iff hx hy).mpr hticket)

theorem withdrawn_withdraw (h : m.Sound) (now : Time) (provider : String) :
    Withdrawn [provider] (m.withdraw now provider).answer now m
      (m.withdraw now provider).state := by
  obtain ⟨answered, hstate, tickets⟩ := withdraw_spec h now provider
  obtain ⟨_, _, entries, _⟩ := Scheduler.withdraw_spec h.linked.exact provider
  have hscheduler := congrArg Manager.scheduler hstate
  refine ⟨sound_withdraw h now provider, ?_, ?_, ?_, fun t => ?_, ?_⟩
  · rw [hscheduler]
    simpa using entries
  · rw [hscheduler]
    simp only [List.mem_singleton]
    rfl
  · rw [answered]
    exact nodup_orphans h provider
  · have waits : (∃ task, m.waitingTask t = some task) ↔ m.status? t = some .queued := by
      simp [waitingTask_eq_some, status?]
    rw [answered, mem_orphans h, waits, entries]
    refine and_congr_right fun _ => ?_
    simp only [List.mem_filter, decide_eq_true_eq, not_exists, not_and, List.mem_singleton]
    refine forall_congr' fun e => ?_
    constructor
    · intro none_left he hticket
      by_contra hp
      exact none_left ⟨he, hp⟩ hticket
    · rintro all ⟨he, hp⟩ hticket
      exact hp (all he hticket)
  · rw [answered]
    exact tickets

end Manager

end InferenceDispatch
