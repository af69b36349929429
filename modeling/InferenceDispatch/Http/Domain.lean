import InferenceDispatch.Http.DomainData
import InferenceDispatch.Http.Label
import InferenceDispatch.Http.Punycode
import InferenceDispatch.Text.Pieces

namespace InferenceDispatch.Http.Domain

def replacements : List (Nat × List Nat) :=
  letterReplacements ++ symbolReplacements ++ kanaReplacements ++ squaredReplacements
    ++ arabicReplacements ++ widthReplacements ++ supplementaryReplacements

def replace? (c : Char) : Option (List Char) :=
  if Text.inRanges disallowedRanges c then none
  else if Text.inRanges ignoredRanges c then some []
  else match replacements.lookup c.toNat with
    | some l => some (l.map Char.ofNat)
    | none => some [Text.mapThrough replacementRuns c]

def normal? (s : List Char) : Option (List Char) :=
  (s.mapM replace?).map fun l => Text.composed l.flatten

/-- Whether an ASCII character may not stand in a name: controls, and the delimiters of URLs. -/
def isForbidden (c : Char) : Bool :=
  c.toNat ≤ 0x20 || c.toNat = 0x7F || "#%/:<>?@[\\]^|".toList.contains c

def encodedMark : List Char := "xn--".toList

/-- How long a label may be that is to be encoded. -/
def longestLabel : Nat := 1000

/-- How long an encoding may be that is to be decoded. -/
def longestCode : Nat := 2000

/-- The text of an encoded label: a text in normal form that is not in ASCII. -/
def decode? (code : List Char) : Option (List Char) :=
  if longestCode < code.length then none
  else (Punycode.decode? code).filter fun t =>
    !t.all Punycode.isBasic && normal? t = some t && Label.isWellFormed t

def encode? (s : List Char) : Option (List Char) :=
  if longestLabel < s.length || !Label.isWellFormed s then none
  else some (encodedMark ++ Punycode.encode s)

def label? (s : List Char) : Option (List Char × List Char) :=
  if s.any isForbidden then none
  else match Text.after? encodedMark s with
    | some code => (decode? code).map fun t => (t, s)
    | none => (if s.all Punycode.isBasic then some s else encode? s).map fun code => (s, code)

def ascii? (s : List Char) : Option (List Char) := do
  let labels ← (Text.pieces '.' (← normal? s)).mapM label?
  let shown := labels.map Prod.fst
  if shown.any Label.isMirrored ∧ !shown.all Label.isDirected then none
  else pure (List.intercalate ['.'] (labels.map Prod.snd))

end InferenceDispatch.Http.Domain
