import InferenceDispatch.Text.Blank

namespace InferenceDispatch.Http

abbrev Headers := List (String × String)

def isHeaderValue (s : String) : Bool :=
  s.toList.all fun c => c = '\t' || (0x20 ≤ c.toNat && c.toNat ≠ 0x7F)

/-- Whether a value can be read as text: it consists of ASCII characters that show, spaces and
tabs. -/
def isReadable (s : String) : Bool :=
  s.toList.all fun c => c = '\t' || (0x20 ≤ c.toNat && c.toNat < 0x7F)

namespace Headers

/-- The headers of a list of pairs; pairs whose value is none are passed over. -/
def ofPairs (l : List (String × String)) : Headers := l.filter fun h => isHeaderValue h.2

def first? (h : Headers) (name : String) : Option String :=
  (h.find? fun e => e.1.toLower = name.toLower).map Prod.snd

def text? (h : Headers) (name : String) : Option String :=
  ((h.first? name).filter isReadable).map Text.trim

end Headers

end InferenceDispatch.Http
