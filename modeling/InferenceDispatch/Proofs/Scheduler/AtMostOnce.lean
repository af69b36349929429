import InferenceDispatch.Number.Double
import InferenceDispatch.Proofs.Scheduler.Calls

namespace InferenceDispatch

namespace Scheduler

def enqueuedTasks (turns : List (Turn (Clocked Scheduler) Call Answer)) : List TaskId :=
  turns.flatMap fun turn => turn.call.enqueued

def scheduledTasks (turns : List (Turn (Clocked Scheduler) Call Answer)) : List TaskId :=
  turns.flatMap fun turn => turn.answer.scheduled

variable {α : Type} [OfScientific α] [Add α] [Sub α] [Mul α] [LE α] [LT α]
  [DecidableLE α] [DecidableLT α] {strategy : Strategy α}
  {turns : List (Turn (Clocked Scheduler) Call Answer)} {s₀ s : Clocked Scheduler}

/-- What holds along a run from `s₀`: the tasks in the queue and those handed out come from `s₀` or
were let in since, and those handed out are gone. -/
structure Ran (s₀ : Scheduler) (turns : List (Turn (Clocked Scheduler) Call Answer))
    (s : Scheduler) : Prop where
  exact : s.Exact
  held : ∀ task, s.queue.Holds task → s₀.queue.Holds task ∨ task ∈ enqueuedTasks turns
  scheduled : ∀ task ∈ scheduledTasks turns, s₀.queue.Holds task ∨ task ∈ enqueuedTasks turns
  gone : ∀ task ∈ scheduledTasks turns, ¬s.queue.Holds task
  nodup : (scheduledTasks turns).Nodup

theorem Answer.nodup_scheduled (answer : Answer) : answer.scheduled.Nodup := by
  unfold scheduled
  split
  next => exact List.nodup_singleton _
  next => exact List.nodup_nil

theorem ran (run : Run (Call.perform strategy) s₀ turns s) (exact : s₀.state.Exact)
    (once : (enqueuedTasks turns).Nodup)
    (fresh : ∀ task ∈ enqueuedTasks turns, ¬s₀.state.queue.Holds task) :
    Ran s₀.state turns s.state := by
  induction run with
  | start => exact ⟨exact, fun _ h => Or.inl h, by simp [scheduledTasks], by simp [scheduledTasks],
      List.nodup_nil⟩
  | @next turns s c e _ hc ih =>
    have all : enqueuedTasks (turns ++ [⟨s, c, e⟩]) = enqueuedTasks turns ++ c.enqueued := by
      simp [enqueuedTasks]
    have out : scheduledTasks (turns ++ [⟨s, c, e⟩]) = scheduledTasks turns ++ e.answer.scheduled := by
      simp [scheduledTasks, Turn.answer]
    rw [all] at once fresh
    obtain ⟨once, _, apart⟩ := List.nodup_append.mp once
    obtain ⟨exact, held, scheduled, gone, nodup⟩ :=
      ih once fun task h => fresh task (List.mem_append_left _ h)
    -- a task that was in the queue, or handed out, is not the one the call lets in
    have old : ∀ task ∈ c.enqueued, ¬(s₀.state.queue.Holds task ∨ task ∈ enqueuedTasks turns) := by
      rintro task hnew (hs | ht)
      · exact fresh task (List.mem_append_right _ hnew) hs
      · exact apart task ht task hnew rfl
    have step := step_perform exact (fun task hnew ht => old task hnew (held task ht)) hc
    have kept : ∀ task, s.state.queue.Holds task →
        s₀.state.queue.Holds task ∨ task ∈ enqueuedTasks (turns ++ [⟨s, c, e⟩]) := by
      intro task ht
      rw [all]
      exact (held task ht).imp_right (List.mem_append_left _)
    refine ⟨step.exact, ?_, ?_, ?_, ?_⟩
    · intro task ht
      rcases step.held task ht with ht | ht
      · exact kept task ht
      · exact Or.inr (all ▸ List.mem_append_right _ ht)
    · intro task ht
      rw [out] at ht
      rcases List.mem_append.mp ht with ht | ht
      · exact (scheduled task ht).imp_right fun h => all ▸ List.mem_append_left _ h
      · exact kept task (step.scheduled task ht).1
    · intro task ht
      rw [out] at ht
      rcases List.mem_append.mp ht with ht | ht
      · intro h
        rcases step.held task h with h | h
        · exact gone task ht h
        · exact old task h (scheduled task ht)
      · exact (step.scheduled task ht).2
    · rw [out]
      refine List.nodup_append.mpr ⟨nodup, e.answer.nodup_scheduled, ?_⟩
      rintro task ht _ hnow rfl
      exact gone task ht (step.scheduled task hnow).1

/-- A turn settles a task: it hands the task out, reports it as an orphan, or cancels it after it was
let in. -/
def Settles (earlier : List (Turn (Clocked Scheduler) Call Answer))
    (turn : Turn (Clocked Scheduler) Call Answer) (task : TaskId) : Prop :=
  task ∈ turn.answer.scheduled ∨ task ∈ turn.answer.orphans ∨
    turn.call = .cancel task ∧ task ∈ enqueuedTasks earlier

theorem holds_empty (task : TaskId) : ¬empty.queue.Holds task := by
  simp [Queue.Holds, empty, Queue.empty]

theorem settled_gone {start : Time} {earlier later : List (Turn (Clocked Scheduler) Call Answer)}
    {turn : Turn (Clocked Scheduler) Call Answer}
    (run : Run (Call.perform strategy) ⟨start, empty⟩ (earlier ++ turn :: later) s)
    (once : (enqueuedTasks (earlier ++ turn :: later)).Nodup) {task : TaskId}
    (settled : Settles earlier turn task) :
    task ∉ scheduledTasks later ∧ ¬s.state.queue.Holds task := by
  obtain ⟨first, hc, last⟩ := run.cut_at
  have all : enqueuedTasks (earlier ++ turn :: later) =
      enqueuedTasks earlier ++ (turn.call.enqueued ++ enqueuedTasks later) := by
    simp [enqueuedTasks]
  rw [all] at once
  obtain ⟨onceEarlier, onceRest, apart⟩ := List.nodup_append.mp once
  obtain ⟨_, onceLater, apartLater⟩ := List.nodup_append.mp onceRest
  have before := ran first exact_empty onceEarlier fun task _ => holds_empty task
  have known : ∀ task, turn.before.state.queue.Holds task → task ∈ enqueuedTasks earlier :=
    fun task ht => (before.held task ht).resolve_left (holds_empty task)
  have step := step_perform before.exact (fun task hnew ht =>
    apart task (known task ht) task (List.mem_append_left _ hnew) rfl) hc
  have after := ran last step.exact onceLater fun t hlater ht => by
    rcases step.held t ht with ht | ht
    · exact apart t (known t ht) t (List.mem_append_right _ hlater) rfl
    · exact apartLater t ht t hlater rfl
  have gone : task ∈ enqueuedTasks earlier ∧ ¬turn.after.state.queue.Holds task := by
    rcases settled with hs | ho | ⟨hcancel, hin⟩
    · exact (step.scheduled task hs).imp_left (known task)
    · exact (step.orphans task ho).imp_left (known task)
    · exact ⟨hin, step.cancel task hcancel⟩
  have notLater : task ∉ enqueuedTasks later :=
    fun hlater => apart task gone.1 task (List.mem_append_right _ hlater) rfl
  constructor
  · intro hs
    exact (after.scheduled task hs).elim gone.2 notLater
  · intro ht
    exact (after.held task ht).elim gone.2 notLater

theorem Exact.contains_iff {s : Scheduler} (h : s.Exact) (task : TaskId) :
    s.waiting.contains task ↔ s.queue.Holds task := by
  rw [Table.contains_iff]
  constructor
  · rintro ⟨ids, hids⟩
    obtain ⟨hne, rfl⟩ := (h.waiting task ids).mp hids
    by_contra hnot
    exact hne (Queue.numbersOf_eq_nil_iff.mpr fun e he ht => hnot ⟨e, he, ht⟩)
  · rintro ⟨e, he, ht⟩
    exact ⟨_, h.waiting.get?_eq_some fun hnil => Queue.numbersOf_eq_nil_iff.mp hnil e he ht⟩

/-- Over any run in which each task is let in once, a task is handed out at most once, and not after
it was cancelled or reported as an orphan; from then on it has no entry, in the list or in a lane. The
books list a task as long as it has entries, with the numbers of just those. No call of the run fails
but a move of an entry into its own tier. -/
theorem task_runs_at_most_once {start : Time}
    (run : Run (Call.perform strategy) ⟨start, empty⟩ turns s) (once : (enqueuedTasks turns).Nodup) :
    (scheduledTasks turns).Nodup ∧
    (∀ earlier turn later, turns = earlier ++ turn :: later → ∀ task, Settles earlier turn task →
      task ∉ scheduledTasks later ∧ (∀ e ∈ s.state.queue.entries, e.task.id ≠ task) ∧
      ∀ key tier, ∀ id ∈ s.state.queue.lane key tier,
        ∃ e ∈ s.state.queue.entries, e.id = id ∧ e.task.id ≠ task) ∧
    (∀ task, s.state.waiting.contains task ↔ ∃ e ∈ s.state.queue.entries, e.task.id = task) ∧
    (∀ task ids, s.state.waiting.get? task = some ids →
      ids.Nodup ∧ ∀ id, id ∈ ids ↔ ∃ e ∈ s.state.queue.entries, e.task.id = task ∧ e.id = id) ∧
    ∀ c : Call, c.MovesElsewhere s.state.queue → ∃ e, c.perform strategy s = .ok e := by
  have whole := ran run exact_empty once fun task _ => holds_empty task
  refine ⟨whole.nodup, ?_, whole.exact.contains_iff, ?_, fun _ => perform_returns whole.exact⟩
  · rintro earlier turn later rfl task settled
    obtain ⟨notLater, gone⟩ := settled_gone run once settled
    have none_left : ∀ e ∈ s.state.queue.entries, e.task.id ≠ task := fun e he ht => gone ⟨e, he, ht⟩
    refine ⟨notLater, none_left, ?_⟩
    intro key tier id hid
    obtain ⟨e, he, heid, _⟩ := (whole.exact.filed.mem_lane key tier id).mp hid
    exact ⟨e, he, heid, none_left e he⟩
  · intro task ids hids
    obtain ⟨_, rfl⟩ := (whole.exact.waiting task ids).mp hids
    exact ⟨whole.exact.filed.nodup_ids.sublist (List.filter_sublist.map _),
      fun id => Queue.mem_numbersOf⟩

/-- A task queued twice under one key runs once, and so does one that loses an entry while it waits. -/
theorem queued_twice_runs_once : ∃ turns s,
    Run (Call.perform (.firstCome : Strategy Double)) ⟨0, empty⟩ turns s ∧
      enqueuedTasks turns = [1, 2] ∧ scheduledTasks turns = [1, 2] ∧ (scheduledTasks turns).Nodup := by
  let twice : Task := ⟨1, 1, "", [⟨"m", "p", 1, .normal⟩, ⟨"m", "p", 1, .high⟩]⟩
  let both : Task := ⟨2, 2, "", [⟨"m", "p", 1, .normal⟩, ⟨"n", "q", 1, .normal⟩]⟩
  let pass : Call := .schedule .unguarded ((Table.empty.insert "m" 1).insert "n" 1)
  have played : ((play (Call.perform (.firstCome : Strategy Double))
      [.enqueue twice, .enqueue both, pass, .withdraw "p", pass, pass] ⟨0, empty⟩).toOption.map
        fun r => (enqueuedTasks r.1, scheduledTasks r.1)) = some ([1, 2], [1, 2]) := by
    decide +kernel
  obtain ⟨turns, s, run, hview⟩ := Run.exists_of_play played
  obtain ⟨henqueued, hscheduled⟩ := Prod.mk.inj hview
  have once : (enqueuedTasks turns).Nodup := by
    rw [henqueued]
    decide
  exact ⟨turns, s, run, henqueued, hscheduled, (task_runs_at_most_once run once).1⟩

end Scheduler

end InferenceDispatch
