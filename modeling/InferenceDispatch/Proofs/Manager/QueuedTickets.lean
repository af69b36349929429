import InferenceDispatch.Number.Double
import InferenceDispatch.Proofs.Manager.History

namespace InferenceDispatch

namespace Manager

variable {α : Type} [OfScientific α] [Add α] [Sub α] [Mul α] [LE α] [LT α]
  [DecidableLE α] [DecidableLT α] {strategy : Strategy α} {settings : ManagerSettings}
  {start : Time} {s : Clocked Manager} {turns : List (Turn (Clocked Manager) Call Answer)}

theorem Linked.status_queued_iff {m : Manager} (h : m.Linked) (t : Ticket) :
    m.status? t = some .queued ↔ ∃ e ∈ m.scheduler.queue.entries, e.task.ticket = t := by
  constructor
  · intro hst
    obtain ⟨s, hs, hst⟩ := Option.map_eq_some_iff.mp hst
    exact h.queued t s.task (waitingTask_eq_some.mpr ⟨s, hs, hst, rfl⟩)
  · rintro ⟨e, he, rfl⟩
    obtain ⟨s, hs, hst, _⟩ := waitingTask_eq_some.mp (h.waiting e he)
    rw [status?, hs, Option.map_some, hst]

/-- In every state that a run reaches, a ticket is queued if and only if the queue has an entry for it.
Every entry is for the task of its ticket, under the key of one of its candidates, and stands in the
lane of that key; the lanes hold nothing else. -/
theorem queued_iff_entry (run : Run (Call.perform strategy settings) ⟨start, empty⟩ turns s) :
    (∀ t, s.state.status? t = some .queued ↔
      ∃ e ∈ s.state.scheduler.queue.entries, e.task.ticket = t) ∧
    (∀ e ∈ s.state.scheduler.queue.entries,
      (∃ st, s.state.tickets.get? e.task.ticket = some st ∧ st.status = .queued ∧
        st.task = e.task.id) ∧
      ∃ c ∈ e.task.candidates, e.key = ⟨c.model, c.provider⟩) ∧
    (∀ key tier id, id ∈ s.state.scheduler.queue.lane key tier ↔
      ∃ e ∈ s.state.scheduler.queue.entries, e.id = id ∧ e.key = key ∧ e.tier = tier) ∧
    ∀ c : Call, c.MovesElsewhere s.state.scheduler.queue →
      ∃ e, c.perform strategy settings s = .ok e := by
  have sound := sound_of_run run sound_empty
  have linked := sound.linked
  refine ⟨linked.status_queued_iff, fun e he => ⟨?_, linked.keys e he⟩,
    linked.exact.filed.mem_lane, fun _ => perform_returns sound⟩
  exact waitingTask_eq_some.mp (linked.waiting e he)

/-- A request for two providers stays queued when it loses one of them. -/
theorem queued_without_one_provider : ∃ turns s,
    Run (Call.perform (.firstCome : Strategy Double) ⟨seconds 60, 1⟩) ⟨0, empty⟩ turns s ∧
      s.state.status? 1 = some .queued ∧
      ∃ e ∈ s.state.scheduler.queue.entries, e.task.ticket = 1 := by
  have played : ((play (Call.perform (.firstCome : Strategy Double) ⟨seconds 60, 1⟩)
      [.add "" [⟨"m", "p", 1, .normal⟩, ⟨"m", "q", 1, .normal⟩], .move 2 .high, .withdraw "p"]
      ⟨0, empty⟩).toOption.map fun r => r.2.state.status? 1) = some (some .queued) := by
    decide +kernel
  obtain ⟨turns, s, run, queued⟩ := Run.exists_of_play played
  exact ⟨turns, s, run, queued, ((queued_iff_entry run).1 1).mp queued⟩

end Manager

end InferenceDispatch
