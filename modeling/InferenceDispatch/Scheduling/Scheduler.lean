import InferenceDispatch.Scheduling.Queue

namespace InferenceDispatch

structure Scheduled where
  task : Task
  entry : EntryId
  key : QueueKey
  priority : Priority
  waited : Time
deriving DecidableEq

structure Scheduler where
  queue : Queue
  /-- The numbers of the entries queued for each task; a task without entries is absent. -/
  waiting : Table TaskId (List EntryId)
  issued : Nat
deriving DecidableEq

namespace Scheduler

def empty : Scheduler := ⟨Queue.empty, Table.empty, 0⟩

instance : Inhabited Scheduler := ⟨empty⟩

def enqueueEach (task : Task) (now : Time) (q : Queue) : List Candidate → Queue × List EntryId
  | [] => (q, [])
  | c :: cs =>
    let (q, id) := q.enqueue task ⟨c.model, c.provider⟩ c.priority now
    let (q, ids) := enqueueEach task now q cs
    (q, id :: ids)

def make (s : Scheduler) (ticket : Ticket) (payload : Payload) (candidates : List Candidate) :
    Scheduler × Task :=
  ({ s with issued := s.issued + 1 }, ⟨s.issued + 1, ticket, payload, candidates⟩)

def enqueue (s : Scheduler) (task : Task) (now : Time) : Scheduler × List EntryId :=
  let (queue, ids) := enqueueEach task now s.queue task.candidates
  let waiting := if ids.isEmpty then s.waiting else s.waiting.insert task.id ids
  ({ s with queue, waiting }, ids)

def submit (s : Scheduler) (ticket : Ticket) (payload : Payload) (candidates : List Candidate)
    (now : Time) : Scheduler × Task × List EntryId :=
  let (s, task) := s.make ticket payload candidates
  let (s, ids) := s.enqueue task now
  (s, task, ids)

def removeEach (q : Queue) (ids : List EntryId) : Queue × Nat :=
  ids.foldl (fun (q, n) id => let (q, there) := q.remove id; (q, if there then n + 1 else n)) (q, 0)

/-- Takes the winner out of the queue, and the other entries of its task with it. -/
def claim? (s : Scheduler) (winner : EntryId) (now : Time) : Option (Scheduled × Scheduler) :=
  (s.queue.take? winner).map fun (e, queue) =>
    let others := ((s.waiting.get? e.task.id).getD []).filter fun id => id ≠ winner
    (⟨e.task, e.id, e.key, e.tier, e.waited now⟩,
      { s with queue := (removeEach queue others).1, waiting := s.waiting.erase e.task.id })

def cancel (s : Scheduler) (task : TaskId) : Scheduler × Nat :=
  let (queue, n) := removeEach s.queue ((s.waiting.get? task).getD [])
  ({ s with queue, waiting := s.waiting.erase task }, n)

/-- Strikes a removed entry off its task; gives the task if that was its last entry. -/
def strike (waiting : Table TaskId (List EntryId)) (e : Entry) :
    Table TaskId (List EntryId) × Option Task :=
  match waiting.get? e.task.id with
  | none => (waiting, none)
  | some ids =>
    match ids.filter fun id => id ≠ e.id with
    | [] => (waiting.erase e.task.id, some e.task)
    | left => (waiting.insert e.task.id left, none)

def withdraw (s : Scheduler) (provider : String) : Scheduler × List Task :=
  let (queue, removed) := s.queue.removeProvider provider
  let (waiting, orphans) := removed.foldl
    (fun (waiting, orphans) e =>
      let (waiting, orphan) := strike waiting e
      (waiting, orphans ++ orphan.toList)) (s.waiting, [])
  ({ s with queue, waiting }, orphans)

end Scheduler

end InferenceDispatch
