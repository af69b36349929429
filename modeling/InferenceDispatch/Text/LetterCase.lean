import InferenceDispatch.Text.CaseData

namespace InferenceDispatch.Text

def startsCased (s : List Char) : Bool :=
  match s.dropWhile (inRanges caseIgnorableRanges) with
  | c :: _ => inRanges casedRanges c
  | [] => false

/-- The lower case of `c`, which stands after `before` (read backwards) and in front of `rest`. These matter for
a capital sigma only, which becomes a final sigma at the end of a word. -/
def lowerAt (before : List Char) (c : Char) (rest : List Char) : List Char :=
  if c = 'Σ' then
    if startsCased before && !startsCased rest then ['ς'] else ['σ']
  else if c = 'İ' then ['i', '\u0307']
  else [mapThrough lowerRuns c]

def lowerAfter (before : List Char) : List Char → List Char
  | [] => []
  | c :: rest => lowerAt before c rest ++ lowerAfter (c :: before) rest

def lower (s : String) : String := String.ofList (lowerAfter [] s.toList)

def upperChar (c : Char) : List Char :=
  match upperExpansions.find? fun e => e.1 = c.toNat with
  | some e => e.2.map Char.ofNat
  | none => [mapThrough upperRuns c]

def upper (s : String) : String := String.ofList (s.toList.flatMap upperChar)

end InferenceDispatch.Text
