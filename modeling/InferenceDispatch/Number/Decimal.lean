import InferenceDispatch.Number.Double
import InferenceDispatch.Number.Whole

namespace InferenceDispatch

/-- The number `mantissa · 10 ^ exponent`; the sign stands apart, so that minus zero is kept. -/
structure Decimal where
  negative : Bool
  mantissa : Nat
  exponent : Int
deriving DecidableEq, Repr

namespace Decimal

/-- The double nearest to the absolute value of a decimal.

Beyond 10 ^ 310 every decimal rounds to infinity and below 10 ^ -330 to zero, so no power of ten
outside that range is ever formed. -/
def magnitude (d : Decimal) : Double :=
  let places : Int := (Nat.toDigits 10 d.mantissa).length + d.exponent
  if d.mantissa = 0 ∨ places < -330 then 0
  else if places > 310 then .infinity false
  else OfScientific.ofScientific d.mantissa (d.exponent < 0) d.exponent.natAbs

def toDouble (d : Decimal) : Double := if d.negative then -d.magnitude else d.magnitude

def readExponent? : List Char → Option Int
  | [] => some 0
  | c :: r => if c = 'e' ∨ c = 'E' then Whole.readSigned? r else none

def readUnsigned? (negative : Bool) (s : List Char) : Option Decimal :=
  let whole := s.takeWhile Whole.isDigit
  let rest := s.dropWhile Whole.isDigit
  let (places, rest) := match rest with
    | '.' :: r => (r.takeWhile Whole.isDigit, r.dropWhile Whole.isDigit)
    | r => ([], r)
  if whole.isEmpty && places.isEmpty then none
  else
    (readExponent? rest).map fun e =>
      ⟨negative, Whole.ofDigits (whole ++ places), e - places.length⟩

end Decimal

/-- Double-precision numerals in text: decimals, and the names of infinity and of the undefined
number in any case of letters, each with an optional sign. -/
def readDouble? (s : List Char) : Option Double :=
  let (negative, body) := match s with
    | '-' :: r => (true, r)
    | '+' :: r => (false, r)
    | r => (false, r)
  let name := String.ofList (body.map Char.toLower)
  if name = "inf" ∨ name = "infinity" then some (.infinity negative)
  else if name = "nan" then some (.undefined negative)
  else (Decimal.readUnsigned? negative body).map Decimal.toDouble

end InferenceDispatch
