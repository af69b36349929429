import InferenceDispatch.Proofs.Runs
import InferenceDispatch.Scheduling.Queue

namespace InferenceDispatch

structure PlainQueue where
  issued : Nat
  /-- In first-use order. -/
  keys : List QueueKey
  entries : List Entry
deriving DecidableEq

namespace PlainQueue

def empty : PlainQueue := ⟨0, [], []⟩

def find? (q : PlainQueue) (id : EntryId) : Option Entry := q.entries.find? fun e => e.id = id

def inTier (q : PlainQueue) (key : QueueKey) (tier : Priority) : List Entry :=
  q.entries.filter fun e => e.key = key ∧ e.tier = tier

def front? (q : PlainQueue) (key : QueueKey) : Option Priority → Option Entry
  | some tier => (q.inTier key tier).head?
  | none => Priority.descending.findSome? fun tier => (q.inTier key tier).head?

def enqueue (q : PlainQueue) (task : Task) (key : QueueKey) (tier : Priority) (now : Time) :
    PlainQueue × EntryId :=
  let id := q.issued + 1
  ({ issued := id
     keys := if key ∈ q.keys then q.keys else q.keys ++ [key]
     entries := q.entries ++ [⟨id, task, key, tier, tier, now, 0, none⟩] }, id)

def drop (q : PlainQueue) (id : EntryId) : PlainQueue :=
  { q with entries := q.entries.filter fun e => e.id ≠ id }

def move (q : PlainQueue) (id : EntryId) (tier : Priority) (now : Time) : PlainQueue × Bool :=
  ({ q with entries := q.entries.map fun e =>
       if e.id = id then { e with tier, moves := e.moves + 1, movedAt := some now } else e },
   (q.find? id).isSome)

def removeProvider (q : PlainQueue) (provider : String) : PlainQueue × List Entry :=
  ({ q with
     keys := q.keys.filter fun k => k.provider ≠ provider
     entries := q.entries.filter fun e => e.key.provider ≠ provider },
   q.entries.filter fun e => e.key.provider = provider)

/-- How many of the entries that satisfy `p` are in each tier. -/
def tally (q : PlainQueue) (p : Entry → Bool) : TierCounts :=
  let inTier := fun tier => q.entries.countP fun e => p e ∧ e.tier = tier
  ⟨inTier .low, inTier .normal, inTier .high⟩

def waitingLongerThan (q : PlainQueue) (bound now : Time) : List Entry :=
  q.entries.filter fun e => bound < e.waited now

theorem front?_mem {q : PlainQueue} {key : QueueKey} {only : Option Priority} {e : Entry}
    (h : q.front? key only = some e) : e ∈ q.entries := by
  have inTier_subset : ∀ tier, q.inTier key tier ⊆ q.entries := fun _ => List.filter_sublist.subset
  cases only with
  | some tier => exact inTier_subset tier (List.mem_of_mem_head? h)
  | none =>
    obtain ⟨tier, _, h⟩ := List.exists_of_findSome?_eq_some h
    exact inTier_subset tier (List.mem_of_mem_head? h)

theorem total_tally (q : PlainQueue) (p : Entry → Bool) :
    (q.tally p).total = q.entries.countP p := by
  obtain ⟨_, _, entries⟩ := q
  simp only [tally, TierCounts.total]
  induction entries with
  | nil => rfl
  | cons e entries ih =>
    simp only [List.countP_cons, ← ih]
    cases p e <;> cases e.tier <;> simp <;> omega

theorem tally_or (q : PlainQueue) {p r : Entry → Bool} (apart : ∀ e, p e = true → r e = false) :
    q.tally (fun e => p e || r e) = (q.tally p).add (q.tally r) := by
  have count : ∀ tier, q.entries.countP (fun e => decide ((p e || r e) = true ∧ e.tier = tier)) =
      q.entries.countP (fun e => decide (p e = true ∧ e.tier = tier)) +
        q.entries.countP (fun e => decide (r e = true ∧ e.tier = tier)) := by
    intro tier
    induction q.entries with
    | nil => rfl
    | cons e entries ih =>
      have he := apart e
      simp only [List.countP_cons, ih]
      cases hp : p e <;> cases hr : r e <;> simp_all <;> omega
  simp only [tally, TierCounts.add, count]

end PlainQueue

namespace Queue

/-- What a queue can be asked. Time passes between the calls. -/
inductive Call where
  | enqueue (task : Task) (key : QueueKey) (tier : Priority)
  | peek (key : QueueKey)
  | peekEntry (key : QueueKey)
  | dequeue (key : QueueKey) (only : Option Priority)
  | dequeueEntry (id : EntryId)
  | remove (id : EntryId)
  | removeProvider (provider : String)
  | move (id : EntryId) (tier : Priority)
  | entry (id : EntryId)
  | counts (key : QueueKey)
  | modelCounts (model : String)
  | modelDepth (model : String)
  | keys
  | isEmpty
  | depth
  | waitingLongerThan (bound : Time)
  | advance (span : Time)

inductive Answer where
  | number (id : EntryId)
  | head (e : Option (Task × Priority))
  | task (t : Option Task)
  | entry (e : Option Entry)
  | entries (l : List Entry)
  | counts (c : TierCounts)
  | size (n : Nat)
  | keys (l : List QueueKey)
  | told (yes : Bool)
  | advanced
deriving DecidableEq

namespace Call

def span : Call → Time
  | advance span => span
  | _ => 0

/-- The call does not move an entry into the tier it is in. -/
def MovesElsewhere (entries : List Entry) : Call → Prop
  | move id tier => ∀ e ∈ entries, e.id = id → e.tier ≠ tier
  | _ => True

instance (entries : List Entry) : DecidablePred (MovesElsewhere entries)
  | move id tier => inferInstanceAs (Decidable (∀ e ∈ entries, e.id = id → e.tier ≠ tier))
  | enqueue .. | peek _ | peekEntry _ | dequeue .. | dequeueEntry _ | remove _ | removeProvider _
  | entry _ | counts _ | modelCounts _ | modelDepth _ | keys | isEmpty | depth
  | waitingLongerThan _ | advance _ => inferInstanceAs (Decidable True)

def run (now : Time) (q : Queue) : Call → Except MoveFault (Queue × Answer)
  | enqueue task key tier =>
    let (q, id) := q.enqueue task key tier now
    .ok (q, .number id)
  | peek key => .ok (q, .head ((q.front? key none).map fun e => (e.task, e.tier)))
  | peekEntry key => .ok (q, .entry (q.front? key none))
  | dequeue key only =>
    match q.dequeue? key only with
    | some (e, q) => .ok (q, .task (some e.task))
    | none => .ok (q, .task none)
  | dequeueEntry id =>
    match q.take? id with
    | some (e, q) => .ok (q, .entry (some e))
    | none => .ok (q, .entry none)
  | remove id =>
    let (q, there) := q.remove id
    .ok (q, .told there)
  | removeProvider provider =>
    let (q, removed) := q.removeProvider provider
    .ok (q, .entries removed)
  | move id tier => (q.move id tier now).map fun (q, there) => (q, .told there)
  | entry id => .ok (q, .entry (q.find? id))
  | counts key => .ok (q, .counts (q.counts key))
  | modelCounts model => .ok (q, .counts (q.modelCounts model))
  | modelDepth model => .ok (q, .size (q.modelDepth model))
  | keys => .ok (q, .keys q.keys)
  | isEmpty => .ok (q, .told q.isEmpty)
  | depth => .ok (q, .size q.depth)
  | waitingLongerThan bound => .ok (q, .entries (q.waitingLongerThan bound now))
  | advance _ => .ok (q, .advanced)

def perform (c : Call) (s : Clocked Queue) : Except MoveFault (Effect (Clocked Queue) Answer) :=
  (c.run s.now s.state).map fun (q, a) => .answerOnly ⟨s.now + c.span, q⟩ a

def runPlain (now : Time) (q : PlainQueue) : Call → PlainQueue × Answer
  | enqueue task key tier =>
    let (q, id) := q.enqueue task key tier now
    (q, .number id)
  | peek key => (q, .head ((q.front? key none).map fun e => (e.task, e.tier)))
  | peekEntry key => (q, .entry (q.front? key none))
  | dequeue key only =>
    match q.front? key only with
    | some e => (q.drop e.id, .task (some e.task))
    | none => (q, .task none)
  | dequeueEntry id => (q.drop id, .entry (q.find? id))
  | remove id => (q.drop id, .told (q.find? id).isSome)
  | removeProvider provider =>
    let (q, removed) := q.removeProvider provider
    (q, .entries removed)
  | move id tier =>
    let (q, there) := q.move id tier now
    (q, .told there)
  | entry id => (q, .entry (q.find? id))
  | counts key => (q, .counts (q.tally fun e => e.key = key))
  | modelCounts model => (q, .counts (q.tally fun e => e.key.model = model))
  | modelDepth model => (q, .size (q.entries.countP fun e => e.key.model = model))
  | keys => (q, .keys q.keys)
  | isEmpty => (q, .told q.entries.isEmpty)
  | depth => (q, .size q.entries.length)
  | waitingLongerThan bound => (q, .entries (q.waitingLongerThan bound now))
  | advance _ => (q, .advanced)

end Call

end Queue

namespace PlainQueue

def answers (now : Time) (q : PlainQueue) : List Queue.Call → List Queue.Answer
  | [] => []
  | c :: cs =>
    let (q, answer) := c.runPlain now q
    answer :: answers (now + c.span) q cs

/-- None of the calls moves an entry into the tier it is in at that moment. -/
def MoveElsewhere (now : Time) (q : PlainQueue) : List Queue.Call → Prop
  | [] => True
  | c :: cs =>
    c.MovesElsewhere q.entries ∧ MoveElsewhere (now + c.span) (c.runPlain now q).1 cs

instance : (now : Time) → (q : PlainQueue) → (calls : List Queue.Call) →
    Decidable (MoveElsewhere now q calls)
  | _, _, [] => inferInstanceAs (Decidable True)
  | now, q, c :: cs =>
    have := instDecidableMoveElsewhere (now + c.span) (c.runPlain now q).1 cs
    inferInstanceAs (Decidable (c.MovesElsewhere q.entries ∧
      MoveElsewhere (now + c.span) (c.runPlain now q).1 cs))

end PlainQueue

end InferenceDispatch
