import InferenceDispatch.Http.LabelData
import InferenceDispatch.Text.Composition

namespace InferenceDispatch.Http.Label

def joining? (c : Char) : Option Joining := Text.valueIn? joiningRanges c

def direction (c : Char) : Direction := (Text.valueIn? directionRanges c).getD .leftToRight

def joins (side : Joining) (s : List Char) : Bool :=
  match (s.dropWhile fun c => joining? c = some .transparent).head?.bind joining? with
  | some j => j = side || j = .both
  | none => false

/-- Whether the joiners and non-joiners of a text stand where they may, given the characters in
front of it, the last one first. Both may stand behind a virama, and a non-joiner also between two letters
that would join. -/
def joinersFit (before : List Char) : List Char → Bool
  | [] => true
  | c :: r =>
    let follows := before.head?.any fun d => Text.combiningClass d = 9
    let fits :=
      if c = '\u200d' then follows
      else c ≠ '\u200c' || follows || (joins .behind before && joins .before r)
    fits && joinersFit (c :: before) r

def isWellFormed (s : List Char) : Bool :=
  !(s.head?.any (Text.inRanges markRanges)) && joinersFit [] s

def isMirrored (s : List Char) : Bool :=
  s.any fun c => direction c = .rightToLeft || direction c = .arabicNumber

/-- Whether a text has one direction, which the first letter gives and a letter or number at the end
confirms. -/
def isDirected (s : List Char) : Bool :=
  let ds := s.map direction
  let last := ds.reverse.find? (· ≠ .mark)
  match ds with
  | [] => true
  | .leftToRight :: _ => !isMirrored s && last ≠ some .neutral
  | .rightToLeft :: _ =>
    !ds.contains .leftToRight && last ≠ some .neutral
      && !(ds.contains .europeanNumber && ds.contains .arabicNumber)
  | _ => false

end InferenceDispatch.Http.Label
