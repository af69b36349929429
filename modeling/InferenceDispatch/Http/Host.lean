import InferenceDispatch.Http.Address
import InferenceDispatch.Http.Domain
import InferenceDispatch.Http.Percent

namespace InferenceDispatch.Http.Host

def readBracketed? (s : List Char) : Option String :=
  match s.reverse with
  | ']' :: r => (Address.readWords? r.reverse).map fun ws => "[" ++ Address.wordsText ws ++ "]"
  | _ => none

def readDomain? (s : List Char) : Option String := do
  let name ← Domain.ascii? (← Percent.decode? s)
  if name.isEmpty then none
  else if Address.isNumeric name then (Address.readBytes? name).map Address.bytesText
  else some (String.ofList name)

def read? : List Char → Option String
  | '[' :: r => readBracketed? r
  | s => readDomain? s

/-- The host of any other scheme: an address in brackets, or any text without delimiters. -/
def readPlain? : List Char → Option String
  | '[' :: r => readBracketed? r
  | s =>
    if s.any fun c => "\x00\t\n\r #/:<>?@[\\]^|".toList.contains c then none
    else some (Percent.encode "" s)

end InferenceDispatch.Http.Host
