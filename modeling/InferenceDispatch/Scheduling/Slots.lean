import InferenceDispatch.Collections.Table
import InferenceDispatch.Scheduling.Strategy

namespace InferenceDispatch

structure Slots where
  total : Nat
  busy : Nat
deriving DecidableEq, Repr

def Slots.free (s : Slots) : Nat := s.total - s.busy

abbrev SlotTable := Table String Slots

namespace SlotTable

/-- Sets the number of slots of a model; the busy ones stay busy. -/
def register (t : SlotTable) (model : String) (total : Nat) : SlotTable :=
  (t.insertNew model ⟨0, 0⟩).modify model fun s => { s with total }

def ensure (t : SlotTable) (total : Nat) (model : String) : SlotTable :=
  t.insertNew model ⟨total, 0⟩

/-- Takes a free slot; tells whether there was one. -/
def take (t : SlotTable) (model : String) : SlotTable × Bool :=
  if (t.get? model).any fun s => s.busy < s.total then
    (t.modify model fun s => { s with busy := s.busy + 1 }, true)
  else (t, false)

def release (t : SlotTable) (model : String) : SlotTable :=
  t.modify model fun s => { s with busy := s.busy - 1 }

def busy (t : SlotTable) (model : String) : Nat := ((t.get? model).map Slots.busy).getD 0

def workTable (t : SlotTable) : WorkTable := t.mapValues fun _ s => s.free

end SlotTable

end InferenceDispatch
