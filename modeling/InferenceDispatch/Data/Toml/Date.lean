import InferenceDispatch.Calendar

namespace InferenceDispatch.Toml

def fractionText (digits : List Char) : String :=
  match ((digits.take 9).reverse.dropWhile (· = '0')).reverse with
  | [] => ""
  | kept => "." ++ String.ofList kept

/-- A time of day; the second 60 is a leap second. -/
def time? (s : List Char) : Option (String × List Char) := do
  let (clock, r) ← Calendar.Clock.read? s
  let text := clock.text
  match r with
  | '.' :: d :: t =>
    if Whole.isDigit d then
      pure (text ++ fractionText (d :: t.takeWhile Whole.isDigit), t.dropWhile Whole.isDigit)
    else pure (text, r)
  | r => pure (text, r)

def offset? (s : List Char) : Option (String × List Char) :=
  match s with
  | c :: r =>
    if c = 'Z' ∨ c = 'z' then some ("Z", r)
    else if c = '+' ∨ c = '-' then do
      let (hour, r) ← Whole.digitsAhead? 2 0 23 r
      let (minute, r) ← Whole.digitsAhead? 2 0 59 (← Text.after? [':'] r)
      let sign := if c = '-' ∧ 0 < hour + minute then "-" else "+"
      pure (sign ++ Calendar.hourMinute hour minute, r)
    else some ("", s)
  | [] => some ("", [])

def dateTime? (s : List Char) : Option (String × List Char) :=
  match Calendar.Date.read? s with
  | some (date, r) =>
    let date := date.text
    match r with
    | c :: r' =>
      if c = 'T' ∨ c = 't' ∨ c = ' ' then
        match time? r' with
        | some (time, r') => (offset? r').map fun (offset, r) => (date ++ "T" ++ time ++ offset, r)
        | none => some (date, r)
      else some (date, r)
    | [] => some (date, [])
  | none => time? s

end InferenceDispatch.Toml
