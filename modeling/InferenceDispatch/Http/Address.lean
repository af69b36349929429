import InferenceDispatch.Number.Whole
import InferenceDispatch.Text.Pieces

namespace InferenceDispatch.Http.Address

/-- A part of a byte address: to base 16 behind `0x`, to base 8 behind another zero, else to base
ten. -/
def readPart? : List Char → Option Nat
  | '0' :: 'x' :: r | '0' :: 'X' :: r => Whole.ofBase? 16 r
  | '0' :: c :: r => Whole.ofBase? 8 (c :: r)
  | s => Whole.readDigits? s

def parts (s : List Char) : List (List Char) :=
  let ps := Text.pieces '.' s
  if ps.getLast? = some [] then ps.dropLast else ps

def isNumeric (s : List Char) : Bool :=
  (parts s).getLast?.any fun p => (Whole.readDigits? p).isSome || (readPart? p).isSome

def lastBytes (width n : Nat) : List Nat :=
  (List.range width).reverse.map fun i => n / Nat.pow 256 i % 256

/-- A byte address of at most four parts. All but the last stand for a byte each, the last one for
the bytes that are left. -/
def readBytes? (s : List Char) : Option (List Nat) := do
  let numbers ← (parts s).mapM readPart?
  let last ← numbers.getLast?
  let front := numbers.dropLast
  let width := 4 - front.length
  if 0 < width ∧ front.all (· < 256) ∧ last < Nat.pow 256 width then
    some (front ++ lastBytes width last)
  else none

def bytesText (bytes : List Nat) : String := String.intercalate "." (bytes.map Whole.text)

def word? (s : List Char) : Option Nat :=
  if !s.isEmpty && s.length ≤ 4 then Whole.ofBase? 16 s else none

def byte? (s : List Char) : Option Nat :=
  (Whole.readDigits? s).filter fun n => n < 256 && (Whole.text n).toList = s

def embedded? (s : List Char) : Option (List Nat) := do
  match ← (Text.pieces '.' s).mapM byte? with
  | [a, b, c, d] => some [256 * a + b, 256 * c + d]
  | _ => none

def wordList? (s : List Char) : Option (List Nat) := do
  let ps := Text.pieces ':' s
  let last ← ps.getLast?
  if '.' ∈ last then return (← ps.dropLast.mapM word?) ++ (← embedded? last)
  else ps.mapM word?

/-- A word address. A doubled colon stands once for as many zeros as are missing. -/
def readWords? (s : List Char) : Option (List Nat) :=
  match Text.piecesAtDouble ':' s with
  | [all] => (wordList? all).filter fun ws => ws.length = 8
  | [left, right] => do
    let front ← if left = [] then some [] else (Text.pieces ':' left).mapM word?
    let back ← if right = [] then some [] else wordList? right
    let missing := 8 - (front.length + back.length)
    if 0 < missing then some (front ++ List.replicate missing 0 ++ back) else none
  | _ => none

def zerosAt (words : List Nat) (i : Nat) : Nat := ((words.drop i).takeWhile (· = 0)).length

/-- The text of a word address: the first of the longest runs of at least two zeros is left out. -/
def wordsText (words : List Nat) : String :=
  let join := fun (ws : List Nat) =>
    String.intercalate ":" (ws.map fun w => String.ofList (Nat.toDigits 16 w))
  let start := (List.range words.length).foldl
    (fun best i => if zerosAt words best < zerosAt words i then i else best) 0
  let run := zerosAt words start
  if 2 ≤ run then join (words.take start) ++ "::" ++ join (words.drop (start + run))
  else join words

end InferenceDispatch.Http.Address
