import InferenceDispatch.Calendar

namespace InferenceDispatch

/-- A point in time in the time zone it was given in. -/
structure Timestamp where
  date : Calendar.Date
  clock : Calendar.Clock
  nanoseconds : Nat
  offset : Int
deriving DecidableEq, Repr

namespace Timestamp

/-- The billionths in the places of a fraction; places beyond the ninth are cut off. -/
def billionths (places : List Char) : Nat :=
  Whole.ofDigits (places.take 9) * Nat.pow 10 (9 - (places.take 9).length)

def fraction? : List Char → Option (Nat × List Char)
  | '.' :: r =>
    let places := r.takeWhile Whole.isDigit
    if places.isEmpty then none else some (billionths places, r.dropWhile Whole.isDigit)
  | r => some (0, r)

def offset? : List Char → Option (Int × List Char)
  | c :: r =>
    if c = 'Z' ∨ c = 'z' then some (0, r)
    else if c = '+' ∨ c = '-' ∨ c = '\u2212' then do
      let (hours, r) ← Whole.digitsAhead? 2 0 23 r
      let (minutes, r) ← Whole.digitsAhead? 2 0 59 (← Text.after? [':'] r)
      let ahead : Int := hours * 60 + minutes
      pure (if c = '+' then ahead else -ahead, r)
    else none
  | [] => none

def read? (s : String) : Option Timestamp := do
  let (date, r) ← Calendar.Date.read? s.toList
  let r ← match r with
    | c :: r => if c = 'T' ∨ c = 't' ∨ c = ' ' then some r else none
    | [] => none
  let (clock, r) ← Calendar.Clock.read? r
  let (nanoseconds, r) ← fraction? r
  let (offset, r) ← offset? r
  if r.isEmpty then some ⟨date, clock, nanoseconds, offset⟩ else none

/-- The fraction in no, three, six or nine places, whichever suffice first. -/
def fractionText (n : Nat) : String :=
  if n = 0 then ""
  else if n % 1000000 = 0 then "." ++ Whole.padded 3 (n / 1000000)
  else if n % 1000 = 0 then "." ++ Whole.padded 6 (n / 1000)
  else "." ++ Whole.padded 9 n

def offsetText (minutes : Int) : String :=
  if minutes = 0 then "Z"
  else (if minutes < 0 then "-" else "+") ++
    Calendar.hourMinute (minutes.natAbs / 60) (minutes.natAbs % 60)

def text (t : Timestamp) : String :=
  t.date.text ++ "T" ++ t.clock.text ++ fractionText t.nanoseconds ++ offsetText t.offset

end Timestamp

end InferenceDispatch
