import InferenceDispatch.Data.Datum
import InferenceDispatch.Number.Decimal

namespace InferenceDispatch.Json

def isSpace (c : Char) : Bool := c = ' ' || c = '\t' || c = '\n' || c = '\r'

def skipSpace (s : List Char) : List Char := s.dropWhile isSpace

/-- The unit of a code point: a character of its own, or one half of a surrogate pair. -/
inductive CodeUnit where
  | char (c : Char)
  | half (unit : Nat)

def units? : List Char → Option ((List CodeUnit) × List Char)
  | [] => none
  | '"' :: r => some ([], r)
  | ['\\'] => none
  | '\\' :: c :: r =>
    let simple := fun (c : Char) => (units? r).map fun (us, r) => (.char c :: us, r)
    match c with
    | '"' => simple '"'
    | '\\' => simple '\\'
    | '/' => simple '/'
    | 'b' => simple '\x08'
    | 'f' => simple '\x0c'
    | 'n' => simple '\n'
    | 'r' => simple '\r'
    | 't' => simple '\t'
    | 'u' =>
      match r with
      | a :: b :: c :: d :: r => do
        let (n, _) ← Whole.hexAhead? 4 [a, b, c, d]
        let (us, r) ← units? r
        let u := if 0xD800 ≤ n ∧ n < 0xE000 then CodeUnit.half n else .char (Char.ofNat n)
        pure (u :: us, r)
      | _ => none
    | _ => none
  | c :: r => if c.toNat < 0x20 then none else (units? r).map fun (us, r) => (.char c :: us, r)

/-- The characters of code units, if every half has its other half behind it. -/
def joinUnits? : List CodeUnit → Option (List Char)
  | [] => some []
  | .char c :: us => (joinUnits? us).map (c :: ·)
  | .half a :: .half b :: us =>
    if a < 0xDC00 ∧ 0xDC00 ≤ b then
      (joinUnits? us).map (Char.ofNat (0x10000 + (a - 0xD800) * 0x400 + (b - 0xDC00)) :: ·)
    else none
  | .half _ :: _ => none

def string? (s : List Char) : Option ((Option String) × List Char) :=
  (units? s).map fun (us, r) => ((joinUnits? us).map String.ofList, r)

def number? (s : List Char) : Option (Datum × List Char) := do
  let (negative, body) := match s with
    | '-' :: r => (true, r)
    | r => (false, r)
  let whole := body.takeWhile Whole.isDigit
  let rest := body.dropWhile Whole.isDigit
  if whole = [] ∨ (whole.head? = some '0' ∧ 1 < whole.length) then none
  let (places, rest, point) := match rest with
    | '.' :: r => (r.takeWhile Whole.isDigit, r.dropWhile Whole.isDigit, true)
    | r => ([], r, false)
  if point ∧ places = [] then none
  let (exponent, rest, mark) ← match rest with
    | c :: r =>
      if c = 'e' ∨ c = 'E' then
        let (sign, r) := match r with
          | '+' :: r => ([], r)
          | '-' :: r => (['-'], r)
          | r => ([], r)
        (Whole.readSigned? (sign ++ r.takeWhile Whole.isDigit)).map fun e =>
          (e, r.dropWhile Whole.isDigit, true)
      else some (0, rest, false)
    | [] => some (0, rest, false)
  let n := Whole.ofDigits whole
  let decimal : Decimal := ⟨negative, Whole.ofDigits (whole ++ places), exponent - places.length⟩
  let x := decimal.toDouble
  let inRange := if negative then 0 < n && n ≤ Whole.signedBound else n < Whole.wordBound
  let isInteger := !point && !mark && inRange
  if isInteger then pure (.integer (if negative then -(n : Int) else n), rest)
  else pure (if x.isFinite then .real x else .unreadable, rest)

mutual

def value? : (depth : Nat) → List Char → Option (Datum × List Char)
  | 0, _ => none
  | depth + 1, s =>
    match s with
    | 'n' :: 'u' :: 'l' :: 'l' :: r => some (.null, r)
    | 't' :: 'r' :: 'u' :: 'e' :: r => some (.bool true, r)
    | 'f' :: 'a' :: 'l' :: 's' :: 'e' :: r => some (.bool false, r)
    | '"' :: r => (string? r).map fun (t, r) => ((t.map Datum.text).getD .unreadable, r)
    | '[' :: r =>
      match skipSpace r with
      | ']' :: r => some (.list [], r)
      | r => (items? depth r).map fun (l, r) => (.list l, r)
    | '\x7b' :: r =>
      match skipSpace r with
      | '\x7d' :: r => some (.fields [], r)
      | r => (members? depth r).map fun (l, r) => ((l.map Datum.fields).getD .unreadable, r)
    | s => number? s

def items? : (depth : Nat) → List Char → Option ((List Datum) × List Char)
  | 0, _ => none
  | depth + 1, s => do
    let (v, r) ← value? depth s
    match skipSpace r with
    | ']' :: r => pure ([v], r)
    | ',' :: r =>
      let (vs, r) ← items? depth (skipSpace r)
      pure (v :: vs, r)
    | _ => none

/-- The members of an object up to its closing brace; missing if a key is unreadable. -/
def members? : (depth : Nat) → List Char → Option ((Option (List (String × Datum))) × List Char)
  | 0, _ => none
  | depth + 1, s => do
    match s with
    | '"' :: r =>
      let (key, r) ← string? r
      match skipSpace r with
      | ':' :: r =>
        let (v, r) ← value? depth (skipSpace r)
        let entry := key.map fun k => (k, v)
        match skipSpace r with
        | '\x7d' :: r => pure (entry.map fun e => [e], r)
        | ',' :: r =>
          let (es, r) ← members? depth (skipSpace r)
          pure (entry.bind fun e => es.map fun es => e :: es, r)
        | _ => none
      | _ => none
    | _ => none

end

/-- Reads a document with space around it. No value nests deeper than the text is long. -/
def read? (s : String) : Option Datum := do
  let (v, r) ← value? (s.length + 1) (skipSpace s.toList)
  if skipSpace r = [] then pure v else none

end InferenceDispatch.Json
