import InferenceDispatch.Clock
import InferenceDispatch.Collections.Table
import InferenceDispatch.Scheduling.Task

namespace InferenceDispatch

abbrev EntryId := Nat

structure QueueKey where
  model : String
  provider : String
deriving DecidableEq, Repr

structure Entry where
  id : EntryId
  task : Task
  key : QueueKey
  initial : Priority
  tier : Priority
  enqueuedAt : Time
  /-- How often the entry was moved: fewer than 2 ^ 32 times, as a running queue counts in 32 bits. -/
  moves : Nat
  movedAt : Option Time
deriving DecidableEq

namespace Entry

def before (a b : Entry) : Bool :=
  a.enqueuedAt < b.enqueuedAt || (a.enqueuedAt = b.enqueuedAt && a.id < b.id)

def sortByArrival (l : List Entry) : List Entry := l.mergeSort fun a b => !b.before a

def waited (e : Entry) (now : Time) : Time := elapsed e.enqueuedAt now

end Entry

structure TierCounts where
  low : Nat
  normal : Nat
  high : Nat
deriving DecidableEq, Repr

namespace TierCounts

def none : TierCounts := ⟨0, 0, 0⟩

def total (c : TierCounts) : Nat := c.low + c.normal + c.high

def count (c : TierCounts) : Priority → Nat
  | .low => c.low
  | .normal => c.normal
  | .high => c.high

def add (a b : TierCounts) : TierCounts := ⟨a.low + b.low, a.normal + b.normal, a.high + b.high⟩

def toDatum (c : TierCounts) : Datum :=
  .fields [("low", .count c.low), ("normal", .count c.normal), ("high", .count c.high)]

end TierCounts

structure Lanes where
  low : List EntryId
  normal : List EntryId
  high : List EntryId
deriving DecidableEq

namespace Lanes

def empty : Lanes := ⟨[], [], []⟩

def lane (l : Lanes) : Priority → List EntryId
  | .low => l.low
  | .normal => l.normal
  | .high => l.high

def set (l : Lanes) (p : Priority) (ids : List EntryId) : Lanes :=
  match p with
  | .low => { l with low := ids }
  | .normal => { l with normal := ids }
  | .high => { l with high := ids }

def counts (l : Lanes) : TierCounts := ⟨l.low.length, l.normal.length, l.high.length⟩

/-- The next entry: of the named tier, or of the highest tier that has one. -/
def front? (l : Lanes) : Option Priority → Option EntryId
  | some p => (l.lane p).head?
  | none => Priority.descending.findSome? fun p => (l.lane p).head?

def push (l : Lanes) (p : Priority) (id : EntryId) : Lanes := l.set p (l.lane p ++ [id])

def detach (l : Lanes) (p : Priority) (id : EntryId) : Lanes := l.set p ((l.lane p).erase id)

theorem lane_set (l : Lanes) (p q : Priority) (ids : List EntryId) :
    (l.set p ids).lane q = if q = p then ids else l.lane q := by
  cases p <;> cases q <;> rfl

@[simp] theorem lane_empty (p : Priority) : empty.lane p = [] := by cases p <;> rfl

end Lanes

structure Queue where
  issued : Nat
  /-- The keys that have lanes, in the order in which they were first used. -/
  keys : List QueueKey
  lanes : Table QueueKey Lanes
  /-- The entries, in the order of their numbers. -/
  entries : List Entry
deriving DecidableEq

namespace Queue

def empty : Queue := ⟨0, [], Table.empty, []⟩

instance : Inhabited Queue := ⟨empty⟩

def find? (q : Queue) (id : EntryId) : Option Entry := q.entries.find? fun e => e.id = id

def depth (q : Queue) : Nat := q.entries.length

def isEmpty (q : Queue) : Bool := q.entries.isEmpty

def enqueue (q : Queue) (task : Task) (key : QueueKey) (tier : Priority) (now : Time) :
    Queue × EntryId :=
  let id := q.issued + 1
  let lanes := q.lanes.insertNew key Lanes.empty
  ({ issued := id
     keys := if q.lanes.contains key then q.keys else q.keys ++ [key]
     lanes := lanes.modify key fun l => l.push tier id
     entries := q.entries ++ [⟨id, task, key, tier, tier, now, 0, none⟩] }, id)

def front? (q : Queue) (key : QueueKey) (only : Option Priority) : Option Entry := do
  q.find? (← (← q.lanes.get? key).front? only)

def take? (q : Queue) (id : EntryId) : Option (Entry × Queue) :=
  (q.find? id).map fun e =>
    (e, { q with
          lanes := q.lanes.modify e.key fun l => l.detach e.tier id
          entries := q.entries.filter fun e => e.id ≠ id })

def dequeue? (q : Queue) (key : QueueKey) (only : Option Priority) : Option (Entry × Queue) := do
  q.take? (← q.front? key only).id

def remove (q : Queue) (id : EntryId) : Queue × Bool :=
  match q.take? id with
  | some (_, q') => (q', true)
  | none => (q, false)

/-- The position a lane has for an entry: in front of the first entry that came after it. -/
def placeIn (q : Queue) (e : Entry) (lane : List EntryId) : Nat :=
  (lane.findIdx? fun id => (q.find? id).any fun o => e.before o).getD lane.length

inductive MoveFault where
  | beyondEnd
deriving DecidableEq, Repr

/-- Moves an entry to another tier; tells whether it was there.

The place is found while the entry is still in its old lane. In its own lane an entry is therefore
put back one place late, and the last one beyond the end. -/
def move (q : Queue) (id : EntryId) (tier : Priority) (now : Time) :
    Except MoveFault (Queue × Bool) :=
  match q.find? id with
  | none => .ok (q, false)
  | some e =>
    match q.lanes.get? e.key with
    | none => .ok (q, false)
    | some l =>
      let place := q.placeIn e (l.lane tier)
      let l := l.detach e.tier id
      if place ≤ (l.lane tier).length then
        let moved := fun (o : Entry) =>
          if o.id = id then { o with tier, moves := o.moves + 1, movedAt := some now } else o
        .ok ({ q with
               lanes := q.lanes.modify e.key fun _ => l.set tier ((l.lane tier).insertIdx place id)
               entries := q.entries.map moved }, true)
      else .error .beyondEnd

/-- Removes every entry of a provider, and its keys; gives the entries by arrival. -/
def removeProvider (q : Queue) (provider : String) : Queue × List Entry :=
  ({ q with
     keys := q.keys.filter fun key => key.provider ≠ provider
     lanes := q.lanes.filter fun key _ => key.provider ≠ provider
     entries := q.entries.filter fun e => e.key.provider ≠ provider },
   Entry.sortByArrival (q.entries.filter fun e => e.key.provider = provider))

def counts (q : Queue) (key : QueueKey) : TierCounts :=
  ((q.lanes.get? key).map Lanes.counts).getD TierCounts.none

def modelCounts (q : Queue) (model : String) : TierCounts :=
  (q.lanes.entries.filter fun e => e.1.model = model).foldl
    (fun c e => c.add e.2.counts) TierCounts.none

def modelDepth (q : Queue) (model : String) : Nat := (q.modelCounts model).total

def waitingLongerThan (q : Queue) (bound now : Time) : List Entry :=
  Entry.sortByArrival (q.entries.filter fun e => bound < e.waited now)

end Queue

end InferenceDispatch
