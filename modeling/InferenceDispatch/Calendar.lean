import InferenceDispatch.Number.Whole
import InferenceDispatch.Text.Pieces

namespace InferenceDispatch.Calendar

def isLeapYear (year : Nat) : Bool := year % 4 = 0 && (year % 100 ≠ 0 || year % 400 = 0)

def daysIn (year : Nat) : (month : Nat) → Nat
  | 2 => if isLeapYear year then 29 else 28
  | 4 | 6 | 9 | 11 => 30
  | _ => 31

structure Date where
  year : Nat
  month : Nat
  day : Nat
deriving DecidableEq, Repr

namespace Date

def text (d : Date) : String :=
  Whole.padded 4 d.year ++ "-" ++ Whole.padded 2 d.month ++ "-" ++ Whole.padded 2 d.day

def read? (s : List Char) : Option (Date × List Char) := do
  let (year, r) ← Whole.digitsAhead? 4 0 9999 s
  let (month, r) ← Whole.digitsAhead? 2 1 12 (← Text.after? ['-'] r)
  let (day, r) ← Whole.digitsAhead? 2 1 (daysIn year month) (← Text.after? ['-'] r)
  pure (⟨year, month, day⟩, r)

end Date

def hourMinute (hour minute : Nat) : String := Whole.padded 2 hour ++ ":" ++ Whole.padded 2 minute

/-- A time of day in whole seconds; the second 60 is a leap second. -/
structure Clock where
  hour : Nat
  minute : Nat
  second : Nat
deriving DecidableEq, Repr

namespace Clock

def text (c : Clock) : String := hourMinute c.hour c.minute ++ ":" ++ Whole.padded 2 c.second

def read? (s : List Char) : Option (Clock × List Char) := do
  let (hour, r) ← Whole.digitsAhead? 2 0 23 s
  let (minute, r) ← Whole.digitsAhead? 2 0 59 (← Text.after? [':'] r)
  let (second, r) ← Whole.digitsAhead? 2 0 60 (← Text.after? [':'] r)
  pure (⟨hour, minute, second⟩, r)

end Clock

end InferenceDispatch.Calendar
