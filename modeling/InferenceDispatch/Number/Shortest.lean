import InferenceDispatch.Number.Whole

namespace InferenceDispatch.Shortest

/-- A positive double as the exact fraction `num / den`, with the fractions halfway to its lower and
upper neighbour over the same denominator. -/
structure Window where
  low : Nat
  num : Nat
  high : Nat
  den : Nat
  closed : Bool

/-- The window of the positive double with these bits. Below a power of two the lower neighbour is
only half as far away. Both ends round back to the double exactly when its last bit is zero. -/
def Window.ofBits (bits : Nat) : Window :=
  let one := Nat.pow 2 52
  let fraction := bits % one
  let field := bits / one % Nat.pow 2 11
  let m := if field = 0 then fraction else fraction + one
  let below := if fraction = 0 ∧ field > 1 then 1 else 2
  let shift := if field = 0 then 1 else field
  -- the double is 4 m · 2 ^ (shift - 1077)
  let up := Nat.pow 2 (shift - 1077)
  { low := (4 * m - below) * up, num := 4 * m * up, high := (4 * m + 2) * up,
    den := Nat.pow 2 (1077 - shift), closed := m % 2 = 0 }

def Window.holds (w : Window) (a b : Nat) : Bool :=
  if w.closed then w.low * b ≤ a * w.den && a * w.den ≤ w.high * b
  else w.low * b < a * w.den && a * w.den < w.high * b

def powTen (e : Int) : Nat × Nat :=
  if e < 0 then (1, Nat.pow 10 e.natAbs) else (Nat.pow 10 e.natAbs, 1)

def Window.scale (w : Window) : Int :=
  let bound : Option Nat := (List.range 640).find? fun (i : Nat) =>
    let p := powTen ((i : Int) - 325)
    w.num * p.2 < p.1 * w.den
  ((bound.getD 640 : Nat) : Int) - 325

def Window.onGrid? (w : Window) (e : Int) : Option Nat :=
  let (p, q) := powTen e
  let a := w.num * q / (w.den * p)
  let lowFits := w.holds (a * p) q
  let highFits := w.holds ((a + 1) * p) q
  let twice := 2 * (w.num * q)
  let middle := (2 * a + 1) * (w.den * p)
  if lowFits && (!highFits || twice < middle) then some a
  else if highFits then some (a + 1)
  else none

/-- The digits of the shortest decimal, and the power of ten of its last digit. The first grid holds
the power of ten just above the double; seventeen digits are always enough. -/
def Window.digits (w : Window) : Nat × Int :=
  let e := w.scale
  let grids := (List.range 18).map fun (i : Nat) => e - (i : Int)
  let found := grids.findSome? fun g => (w.onGrid? g).map fun a => (a, g)
  found.getD (0, 0)

def positional (a : Nat) (e : Int) : String :=
  let ds := Nat.toDigits 10 a
  if e ≥ 0 then String.ofList (ds ++ List.replicate e.toNat '0')
  else
    let places := e.natAbs
    let ds := List.replicate (places + 1 - ds.length) '0' ++ ds
    String.ofList (ds.take (ds.length - places) ++ '.' :: ds.drop (ds.length - places))

def scientific (a : Nat) (e : Int) : String :=
  let ds := Nat.toDigits 10 a
  let e := e + (ds.length - 1 : Nat)
  let mantissa := if ds.length = 1 then ds else ds.take 1 ++ '.' :: ds.drop 1
  String.ofList mantissa ++ "e" ++ (if e < 0 then "-" else "") ++ Whole.text e.natAbs

/-- Writes `a · 10 ^ e` so that it is not taken for a whole number, with a point or an exponent.
Positional are the numbers below `10 ^ 16` with at most four zeros behind the point. -/
def decimal (a : Nat) (e : Int) : String :=
  let point := e + (Nat.toDigits 10 a).length
  if -5 < point ∧ point ≤ 16 then positional a e ++ (if e ≥ 0 then ".0" else "")
  else scientific a e

def textWith (layout : Nat → Int → String) (x : Float) : String :=
  if x.isNaN then "NaN"
  else
    let bits := x.toBits.toNat
    let sign := if bits / Whole.signedBound = 1 then "-" else ""
    let bits := bits % Whole.signedBound
    if x.isInf then sign ++ "inf"
    else
      let (a, e) := if bits = 0 then (0, 0) else (Window.ofBits bits).digits
      sign ++ layout a e

def text (x : Float) : String := textWith positional x

end InferenceDispatch.Shortest
