import InferenceDispatch.Number.Whole

namespace InferenceDispatch.Toml

def isSpace (c : Char) : Bool := c = ' ' || c = '\t'

def skipSpace (s : List Char) : List Char := s.dropWhile isSpace

def isPlain (c : Char) : Bool := c = '\t' || (0x20 ≤ c.toNat && c.toNat ≠ 0x7F)

def lineBreak? : List Char → Option (List Char)
  | '\n' :: r => some r
  | '\r' :: '\n' :: r => some r
  | _ => none

def lineEnd? : List Char → Option (List Char)
  | [] => some []
  | s => lineBreak? s

def finishLine? (s : List Char) : Option (List Char) :=
  match skipSpace s with
  | '#' :: r => lineEnd? (r.dropWhile isPlain)
  | r => lineEnd? r

/-- Skips space, line breaks and comments; a comment must end in a line break. -/
def skipLines? : (inComment : Bool) → List Char → Option (List Char)
  | _, '\n' :: r => skipLines? false r
  | _, '\r' :: '\n' :: r => skipLines? false r
  | true, c :: r => if isPlain c then skipLines? true r else none
  | true, [] => none
  | false, c :: r =>
    if isSpace c then skipLines? false r else if c = '#' then skipLines? true r else some (c :: r)
  | false, [] => some []

def escaped? : Char → Option Char
  | 'b' => some '\x08'
  | 't' => some '\t'
  | 'n' => some '\n'
  | 'f' => some '\x0c'
  | 'r' => some '\r'
  | '"' => some '"'
  | '\\' => some '\\'
  | _ => none

def codePoint? (digits : List Char) : Option Char := do
  let n ← Whole.ofBase? 16 digits
  if n.isValidChar then some (Char.ofNat n) else none

def consRead (c : Char) (s : List Char × List Char) : List Char × List Char := (c :: s.1, s.2)

def basic? : List Char → Option (List Char × List Char)
  | [] => none
  | '"' :: r => some ([], r)
  | '\\' :: 'u' :: a :: b :: c :: d :: r => do
    pure (consRead (← codePoint? [a, b, c, d]) (← basic? r))
  | '\\' :: 'U' :: a :: b :: c :: d :: e :: f :: g :: h :: r => do
    pure (consRead (← codePoint? [a, b, c, d, e, f, g, h]) (← basic? r))
  | '\\' :: c :: r => do pure (consRead (← escaped? c) (← basic? r))
  | c :: r => if c ≠ '\\' ∧ isPlain c then (basic? r).map (consRead c) else none

def literal? : List Char → Option (List Char × List Char)
  | [] => none
  | '\x27' :: r => some ([], r)
  | c :: r => if isPlain c then (literal? r).map (consRead c) else none

/-- What follows three closing marks: up to two more of them belong to the string. -/
def closingMarks (mark : Char) (s : List Char) : List Char × List Char :=
  let extra := (s.take 2).takeWhile (· = mark)
  (extra, s.drop extra.length)

def joinsLines (s : List Char) : Bool := (lineBreak? (skipSpace s)).isSome

/-- A string of many lines with escapes, up to its closing marks. While `joining`, space and line
breaks are skipped. -/
def basicLines? : (joining : Bool) → List Char → Option (List Char × List Char)
  | _, [] => none
  | _, '"' :: '"' :: '"' :: r => some (closingMarks '"' r)
  | joining, '\n' :: r =>
    if joining then basicLines? true r else (basicLines? false r).map (consRead '\n')
  | joining, '\r' :: '\n' :: r =>
    if joining then basicLines? true r else (basicLines? false r).map (consRead '\n')
  | _, '\\' :: 'u' :: a :: b :: c :: d :: r => do
    pure (consRead (← codePoint? [a, b, c, d]) (← basicLines? false r))
  | _, '\\' :: 'U' :: a :: b :: c :: d :: e :: f :: g :: h :: r => do
    pure (consRead (← codePoint? [a, b, c, d, e, f, g, h]) (← basicLines? false r))
  | _, '\\' :: c :: r =>
    if joinsLines (c :: r) then basicLines? true (c :: r)
    else do pure (consRead (← escaped? c) (← basicLines? false r))
  | joining, c :: r =>
    if joining && isSpace c then basicLines? true r
    else if c ≠ '\\' ∧ isPlain c then (basicLines? false r).map (consRead c)
    else none

def literalLines? : List Char → Option (List Char × List Char)
  | [] => none
  | '\x27' :: '\x27' :: '\x27' :: r => some (closingMarks '\x27' r)
  | '\r' :: '\n' :: r => (literalLines? r).map (consRead '\n')
  | c :: r => if c = '\n' ∨ isPlain c then (literalLines? r).map (consRead c) else none

/-- A line break right behind the opening marks is no part of the string. -/
def skipFirstBreak (s : List Char) : List Char := (lineBreak? s).getD s

def string? (s : List Char) : Option (String × List Char) :=
  let read := match s with
    | '"' :: '"' :: '"' :: r => basicLines? false (skipFirstBreak r)
    | '"' :: r => basic? r
    | '\x27' :: '\x27' :: '\x27' :: r => literalLines? (skipFirstBreak r)
    | '\x27' :: r => literal? r
    | _ => none
  read.map fun (t, r) => (String.ofList t, r)

def isBareKey (c : Char) : Bool := c.isAlphanum || c = '_' || c = '-'

def keyPart? (s : List Char) : Option (String × List Char) :=
  match s with
  | '"' :: r => (basic? r).map fun (t, r) => (String.ofList t, r)
  | '\x27' :: r => (literal? r).map fun (t, r) => (String.ofList t, r)
  | s =>
    let bare := s.takeWhile isBareKey
    if bare.isEmpty then none else some (String.ofList bare, s.dropWhile isBareKey)

/-- The parts of a key between points, with space around each. No key has more parts than
`bound`. -/
def keyParts? : (bound : Nat) → List Char → Option (List String × List Char)
  | 0, _ => none
  | bound + 1, s => do
    let (part, r) ← keyPart? (skipSpace s)
    match skipSpace r with
    | '.' :: r =>
      let (parts, r) ← keyParts? bound r
      pure (part :: parts, r)
    | r => pure ([part], r)

def maxDepth : Nat := 79

def key? (s : List Char) : Option ((List String × String) × List Char) := do
  let (parts, r) ← keyParts? maxDepth s
  pure ((parts.dropLast, ← parts.getLast?), r)

end InferenceDispatch.Toml
