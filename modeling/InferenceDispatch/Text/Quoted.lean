import InferenceDispatch.Text.HiddenData
import InferenceDispatch.Text.LetterCase

namespace InferenceDispatch.Text

/-- Whether a character is written by its number. -/
def isHidden (c : Char) : Bool := c.toNat < 0x20 || inRanges hiddenRanges c

def quotedChar (c : Char) : List Char :=
  match c with
  | '\x00' => ['\\', '0']
  | '\t' => ['\\', 't']
  | '\n' => ['\\', 'n']
  | '\r' => ['\\', 'r']
  | '"' => ['\\', '"']
  | '\\' => ['\\', '\\']
  | c => if isHidden c then "\\u\x7b".toList ++ Nat.toDigits 16 c.toNat ++ ['\x7d'] else [c]

def quoted (s : String) : String := String.ofList ('"' :: s.toList.flatMap quotedChar ++ ['"'])

def bracketed (l : List String) : String := "[" ++ String.intercalate ", " l ++ "]"

def optional : Option String → String
  | some s => "Some(" ++ s ++ ")"
  | none => "None"

def record (name : String) (fields : List (String × String)) : String :=
  name ++ " \x7b " ++ String.intercalate ", " (fields.map fun f => f.1 ++ ": " ++ f.2) ++ " \x7d"

end InferenceDispatch.Text
