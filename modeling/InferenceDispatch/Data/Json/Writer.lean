import InferenceDispatch.Data.Datum
import InferenceDispatch.Number.Shortest

namespace InferenceDispatch.Json

def writeChar (c : Char) : List Char :=
  if c = '"' ∨ c = '\\' then ['\\', c]
  else if c.toNat < 0x20 then
    ['\\', 'u', '0', '0', Nat.digitChar (c.toNat / 16), Nat.digitChar (c.toNat % 16)]
  else [c]

def writeString (s : String) : String :=
  String.ofList ('"' :: s.toList.flatMap writeChar ++ ['"'])

/-- A number that is not written as a whole one; the numbers JSON has no text for are null. -/
def writeReal (x : Double) : String :=
  if x.isFinite then Shortest.textWith Shortest.decimal x.toFloat else "null"

mutual

def write : Datum → String
  | .null | .unreadable => "null"
  | .bool b => if b then "true" else "false"
  | .integer n => if n < 0 then "-" ++ Whole.text n.natAbs else Whole.text n.natAbs
  | .real x => writeReal x
  | .text s | .date s => writeString s
  | .list items => "[" ++ String.intercalate "," (writeItems items) ++ "]"
  | .fields entries => "\x7b" ++ String.intercalate "," (writeMembers entries) ++ "\x7d"

def writeItems : List Datum → List String
  | [] => []
  | d :: r => write d :: writeItems r

def writeMembers : List (String × Datum) → List String
  | [] => []
  | (k, d) :: r => (writeString k ++ ":" ++ write d) :: writeMembers r

end

end InferenceDispatch.Json
