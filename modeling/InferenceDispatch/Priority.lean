import InferenceDispatch.Number.Whole
import InferenceDispatch.Text.Blank
import InferenceDispatch.Text.LetterCase

namespace InferenceDispatch

inductive Priority where
  | low
  | normal
  | high
deriving DecidableEq, Repr, Inhabited

namespace Priority

def descending : List Priority := [high, normal, low]

def value : Priority → Nat
  | low => 1
  | normal => 5
  | high => 10

def label : Priority → String
  | low => "low"
  | normal => "normal"
  | high => "high"

/-- The tier with the given value; any other number means the normal tier. -/
def ofInt (n : Int) : Priority := (descending.find? fun p => (p.value : Int) = n).getD normal

/-- Reads the name or the value of a tier; anything else means the normal tier. -/
def ofText (s : String) : Priority :=
  let name := Text.lower (Text.trim s)
  match descending.find? fun p => p.label = name with
  | some p => p
  | none => (Whole.readInt64? name.toList).elim normal ofInt

def order (a b : Priority) : Ordering := compare a.value b.value

end Priority

end InferenceDispatch
