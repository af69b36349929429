import InferenceDispatch.Proofs.Runs
import InferenceDispatch.Proofs.Scheduler.Choice

namespace InferenceDispatch

/-- A task has an entry in the queue. -/
def Queue.Holds (q : Queue) (task : TaskId) : Prop := ∃ e ∈ q.entries, e.task.id = task

namespace Queue

variable {q q' : Queue}

theorem holds_of_filter {p : Entry → Bool} (hq : q'.entries = q.entries.filter p) {task : TaskId}
    (h : q'.Holds task) : q.Holds task := by
  obtain ⟨e, he, ht⟩ := h
  exact ⟨e, List.mem_of_mem_filter (hq ▸ he), ht⟩

theorem not_holds_of_filter {task : TaskId}
    (hq : q'.entries = q.entries.filter fun e => e.task.id ≠ task) : ¬q'.Holds task := by
  rintro ⟨e, he, ht⟩
  rw [hq] at he
  simpa [ht] using (List.mem_filter.mp he).2

end Queue

namespace Scheduler

/-- What a scheduler can be asked. Time passes between the calls. -/
inductive Call where
  | enqueue (task : Task)
  | schedule (gate : Gate) (slots : WorkTable)
  | cancel (task : TaskId)
  | withdraw (provider : String)
  | move (entry : EntryId) (tier : Priority)
  | advance (span : Time)

inductive Answer where
  | queued (entries : List EntryId)
  | picked (won : Option Scheduled)
  | cancelled (entries : Nat)
  | orphaned (tasks : List Task)
  | moved (there : Bool)
  | advanced

namespace Call

def enqueued : Call → List TaskId
  | enqueue task => [task.id]
  | _ => []

def MovesElsewhere (q : Queue) : Call → Prop
  | move entry tier => ∀ e ∈ q.entries, e.id = entry → e.tier ≠ tier
  | _ => True

end Call

namespace Answer

def scheduled : Answer → List TaskId
  | picked (some won) => [won.task.id]
  | _ => []

def orphans : Answer → List TaskId
  | orphaned tasks => tasks.map Task.id
  | _ => []

end Answer

section Perform

variable {α : Type} [OfScientific α] [Add α] [Sub α] [Mul α] [LE α] [LT α]
  [DecidableLE α] [DecidableLT α]

def Call.perform (strategy : Strategy α) (c : Call) (s : Clocked Scheduler) :
    Except Queue.MoveFault (Effect (Clocked Scheduler) Answer) :=
  match c with
  | enqueue task =>
    let (state, ids) := s.state.enqueue task s.now
    .ok (.answerOnly { s with state } (.queued ids))
  | schedule gate slots =>
    match s.state.schedule strategy gate slots s.now with
    | none => .ok (.answerOnly s (.picked none))
    | some (won, state) => .ok (.answerOnly { s with state } (.picked (some won)))
  | cancel task =>
    let (state, n) := s.state.cancel task
    .ok (.answerOnly { s with state } (.cancelled n))
  | withdraw provider =>
    let (state, orphans) := s.state.withdraw provider
    .ok (.answerOnly { s with state } (.orphaned orphans))
  | move entry tier =>
    (s.state.queue.move entry tier s.now).map fun (queue, there) =>
      .answerOnly { s with state := { s.state with queue } } (.moved there)
  | advance span => .ok (.answerOnly { s with now := s.now + span } .advanced)

variable {strategy : Strategy α} {s : Clocked Scheduler} {c : Call}
  {e : Effect (Clocked Scheduler) Answer}

theorem perform_returns (h : s.state.Exact) (elsewhere : c.MovesElsewhere s.state.queue) :
    ∃ e, c.perform strategy s = .ok e := by
  cases c with
  | move entry tier =>
    obtain ⟨r, hr⟩ : ∃ r, s.state.queue.move entry tier s.now = .ok r :=
      Queue.move_returns h.filed elsewhere
    exact ⟨_, by rw [Call.perform, hr]; rfl⟩
  | schedule gate slots =>
    rw [Call.perform]
    split
    next => exact ⟨_, rfl⟩
    next => exact ⟨_, rfl⟩
  | enqueue | cancel | withdraw | advance => exact ⟨_, rfl⟩

/-- What a call does to the tasks in the queue, if the one it lets in is new there. -/
structure Step (s : Scheduler) (c : Call) (answer : Answer) (s' : Scheduler) : Prop where
  exact : s'.Exact
  held : ∀ task, s'.queue.Holds task → s.queue.Holds task ∨ task ∈ c.enqueued
  scheduled : ∀ task ∈ answer.scheduled, s.queue.Holds task ∧ ¬s'.queue.Holds task
  orphans : ∀ task ∈ answer.orphans, s.queue.Holds task ∧ ¬s'.queue.Holds task
  cancel : ∀ task, c = .cancel task → ¬s'.queue.Holds task

theorem Step.quiet {s s' : Scheduler} {c : Call} {answer : Answer} (exact : s'.Exact)
    (held : ∀ task, s'.queue.Holds task → s.queue.Holds task)
    (scheduled : answer.scheduled = []) (orphans : answer.orphans = [])
    (cancel : ∀ task, c ≠ .cancel task) : Step s c answer s' where
  exact := exact
  held := fun task h => Or.inl (held task h)
  scheduled := by simp [scheduled]
  orphans := by simp [orphans]
  cancel := fun task h => absurd h (cancel task)

theorem step_enqueue {s : Scheduler} (h : s.Exact) (task : Task) (now : Time)
    (fresh : ¬s.queue.Holds task.id) :
    Step s (.enqueue task) (.queued (s.enqueue task now).2) (s.enqueue task now).1 := by
  obtain ⟨exact, _, new, he, _, _, hnew⟩ :=
    enqueue_spec h now fun e he ht => fresh ⟨e, he, ht⟩
  refine ⟨exact, ?_, by simp [Answer.scheduled], by simp [Answer.orphans], by simp⟩
  rintro t ⟨e, hm, rfl⟩
  rw [he] at hm
  rcases List.mem_append.mp hm with hm | hm
  · exact Or.inl ⟨e, hm, rfl⟩
  · exact Or.inr (by simp [Call.enqueued, (hnew e hm).1])

theorem step_schedule {s s' : Scheduler} (h : s.Exact) {gate : Gate} {slots : WorkTable}
    {now : Time} {won : Scheduled} (hs : s.schedule strategy gate slots now = some (won, s')) :
    Step s (.schedule gate slots) (.picked (some won)) s' := by
  obtain ⟨exact, _, e, he, _, rfl, hq⟩ := schedule_spec h hs
  refine ⟨exact, fun t ht => Or.inl (Queue.holds_of_filter hq ht), ?_, by simp [Answer.orphans],
    by simp⟩
  intro t ht
  obtain rfl := List.mem_singleton.mp ht
  exact ⟨⟨e, he, rfl⟩, Queue.not_holds_of_filter hq⟩

theorem step_cancel {s : Scheduler} (h : s.Exact) (task : TaskId) :
    Step s (.cancel task) (.cancelled (s.cancel task).2) (s.cancel task).1 := by
  obtain ⟨exact, _, hq⟩ := cancel_spec h task
  refine ⟨exact, fun t ht => Or.inl (Queue.holds_of_filter hq ht), by simp [Answer.scheduled],
    by simp [Answer.orphans], ?_⟩
  intro t ht
  cases ht
  exact Queue.not_holds_of_filter hq

theorem step_withdraw {s : Scheduler} (h : s.Exact) (provider : String) :
    Step s (.withdraw provider) (.orphaned (s.withdraw provider).2) (s.withdraw provider).1 := by
  obtain ⟨exact, _, hq, _, hmem⟩ := withdraw_spec h provider
  refine ⟨exact, fun t ht => Or.inl (Queue.holds_of_filter hq ht), by simp [Answer.scheduled], ?_,
    by simp⟩
  intro t ht
  obtain ⟨task, htask, rfl⟩ := List.mem_map.mp ht
  obtain ⟨⟨e, he, rfl⟩, none_left⟩ := (hmem task).mp htask
  refine ⟨⟨e, he, rfl⟩, ?_⟩
  rintro ⟨o, ho, hot⟩
  exact none_left o ho hot

theorem step_move {s : Scheduler} (h : s.Exact) {entry : EntryId} {tier : Priority} {now : Time}
    {queue : Queue} {there : Bool} (hm : s.queue.move entry tier now = .ok (queue, there)) :
    Step s (.move entry tier) (.moved there) { s with queue } := by
  obtain ⟨exact, he⟩ := move_spec h hm
  refine Step.quiet exact ?_ rfl rfl (by simp)
  rintro t ⟨e, hm, rfl⟩
  rw [he] at hm
  obtain ⟨o, ho, rfl⟩ := List.mem_map.mp hm
  exact ⟨o, ho, by rw [Queue.moved_task]⟩

theorem step_perform (h : s.state.Exact) (fresh : ∀ task ∈ c.enqueued, ¬s.state.queue.Holds task)
    (hc : c.perform strategy s = .ok e) : Step s.state c e.answer e.state.state := by
  cases c with
  | enqueue task =>
    cases hc
    exact step_enqueue h task s.now (fresh task.id List.mem_cons_self)
  | schedule gate slots =>
    rw [Call.perform] at hc
    split at hc
    next =>
      cases hc
      exact Step.quiet h (fun _ ht => ht) rfl rfl (by simp)
    next hs =>
      cases hc
      exact step_schedule h hs
  | cancel task =>
    cases hc
    exact step_cancel h task
  | withdraw provider =>
    cases hc
    exact step_withdraw h provider
  | move entry tier =>
    obtain ⟨⟨queue, there⟩, hm, rfl⟩ := except_map_eq_ok_iff.mp hc
    exact step_move h hm
  | advance span =>
    cases hc
    exact Step.quiet h (fun _ ht => ht) rfl rfl (by simp)

end Perform

end Scheduler

end InferenceDispatch
