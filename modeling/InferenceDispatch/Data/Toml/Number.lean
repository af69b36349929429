import InferenceDispatch.Data.Datum
import InferenceDispatch.Number.Decimal

namespace InferenceDispatch.Toml

/-- The digits at the start of a text, without the underscores between them, and the rest. -/
def digitRun (isDigit : Char → Bool) : List Char → List Char × List Char
  | '_' :: c :: r =>
    if isDigit c then let (ds, r) := digitRun isDigit r; (c :: ds, r) else ([], '_' :: c :: r)
  | c :: r => if isDigit c then let (ds, r) := digitRun isDigit r; (c :: ds, r) else ([], c :: r)
  | [] => ([], [])

def digitRun? (isDigit : Char → Bool) (s : List Char) : Option (List Char × List Char) :=
  if s.head?.any isDigit then some (digitRun isDigit s) else none

def based? (base : Nat) (s : List Char) : Option (Datum × List Char) := do
  let (ds, r) ← digitRun? (fun c => (Whole.hexValue? c).any (· < base)) s
  let n ← Whole.ofBase? base ds
  if n < Whole.signedBound then some (.integer n, r) else none

def exponent? : List Char → Option ((Int × Bool) × List Char)
  | c :: r =>
    if c = 'e' ∨ c = 'E' then
      let (negative, r) := match r with
        | '+' :: r => (false, r)
        | '-' :: r => (true, r)
        | r => (false, r)
      (digitRun? Whole.isDigit r).map fun (ds, r) =>
        let n := Whole.ofDigits ds
        ((if negative then -(n : Int) else n, true), r)
    else some ((0, false), c :: r)
  | [] => some ((0, false), [])

def places? : List Char → Option ((List Char × Bool) × List Char)
  | '.' :: r => (digitRun? Whole.isDigit r).map fun (ds, r) => ((ds, true), r)
  | r => some (([], false), r)

/-- A number to base ten behind its sign. No zero stands in front of another digit. A number with
places or an exponent is a double, and must not lie above all of them. -/
def decimal? (negative : Bool) (s : List Char) : Option (Datum × List Char) := do
  let (whole, r) ← match s with
    | '0' :: r => some (['0'], r)
    | s => digitRun? Whole.isDigit s
  let ((places, point), r) ← places? r
  let ((exponent, mark), r) ← exponent? r
  let n := Whole.ofDigits whole
  if point || mark then
    let x := Decimal.toDouble ⟨negative, Whole.ofDigits (whole ++ places), exponent - places.length⟩
    if x.isInfinite ∧ ¬negative then none else some (.real x, r)
  else if n < Whole.signedBound ∨ (negative ∧ n = Whole.signedBound) then
    some (.integer (if negative then -(n : Int) else n), r)
  else none

def signed? (negative : Bool) : List Char → Option (Datum × List Char)
  | 'i' :: 'n' :: 'f' :: r => some (.real (.infinity negative), r)
  | 'n' :: 'a' :: 'n' :: r => some (.real (.undefined negative), r)
  | s => decimal? negative s

def number? : List Char → Option (Datum × List Char)
  | '0' :: 'x' :: r => based? 16 r
  | '0' :: 'o' :: r => based? 8 r
  | '0' :: 'b' :: r => based? 2 r
  | '+' :: r => signed? false r
  | '-' :: r => signed? true r
  | r => signed? false r

end InferenceDispatch.Toml
