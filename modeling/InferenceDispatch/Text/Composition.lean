import InferenceDispatch.Text.CompositionData
import InferenceDispatch.Text.Ranges

namespace InferenceDispatch.Text

/-- The class of a mark, by which the marks behind a character are ordered. All other characters are
of class zero, and no mark is moved past one. -/
def combiningClass (c : Char) : Nat := (valueIn? combiningClasses c).getD 0

/-- The jamo of a Hangul syllable: a leading consonant, a vowel, and mostly a trailing consonant.
The syllables are numbered through in the order of their jamo. -/
def jamo? (c : Char) : Option (List Char) :=
  let i := c.toNat - 0xAC00
  if c.toNat < 0xAC00 ∨ 11172 ≤ i then none
  else
    let trailing := if i % 28 = 0 then [] else [0x11A7 + i % 28]
    some (([0x1100 + i / 588, 0x1161 + i % 588 / 28] ++ trailing).map Char.ofNat)

def syllable? (a b : Char) : Option Char :=
  let a := a.toNat
  let b := b.toNat
  if 0x1100 ≤ a ∧ a < 0x1113 ∧ 0x1161 ≤ b ∧ b < 0x1176 then
    some (Char.ofNat (0xAC00 + (a - 0x1100) * 588 + (b - 0x1161) * 28))
  else if 0xAC00 ≤ a ∧ a < 0xD7A4 ∧ (a - 0xAC00) % 28 = 0 ∧ 0x11A7 < b ∧ b < 0x11C3 then
    some (Char.ofNat (a + (b - 0x11A7)))
  else none

def compose? (a b : Char) : Option Char :=
  match syllable? a b with
  | some c => some c
  | none => (composites.find? fun e => e.2.1 = a.toNat && e.2.2 = b.toNat).map fun e =>
      Char.ofNat e.1

def partsWithin : (depth : Nat) → Char → List Char
  | 0, c => [c]
  | depth + 1, c =>
    match composites.lookup c.toNat with
    | some (a, b) => partsWithin depth (Char.ofNat a) ++ [Char.ofNat b]
    | none => [c]

def parts (c : Char) : List Char :=
  let ideograph := (ideographs.lookup c.toNat).or (supplementaryIdeographs.lookup c.toNat)
  let whole := (equivalents.lookup c.toNat).or (ideograph.map fun n => [n])
  match (jamo? c).or (whole.map fun l => l.map Char.ofNat) with
  | some l => l
  | none => partsWithin 3 c

def place (c : Char) : List Char → List Char
  | [] => [c]
  | d :: r =>
    if 0 < combiningClass d ∧ combiningClass d < combiningClass c then d :: place c r
    else c :: d :: r

/-- Composes a text behind the character `first`. The marks that stand between and do not compose
with it are held in `between`, the last one in front; a mark is cut off from it by one of the same
class, and any other character by any mark. -/
def composeBehind (first : Char) (between : List Char) : List Char → List Char
  | [] => first :: between.reverse
  | c :: r =>
    let reaches := between.head?.all fun d => combiningClass d < combiningClass c
    match if reaches then compose? first c else none with
    | some whole => composeBehind whole between r
    | none =>
      if combiningClass c = 0 then first :: between.reverse ++ composeBehind c [] r
      else composeBehind first (c :: between) r

/-- The composed form of a text: every character is taken apart, the marks behind a character are put in the
order of their classes, and what can be put together is put together again. -/
def composed (s : List Char) : List Char :=
  match (s.flatMap parts).foldr place [] with
  | [] => []
  | c :: r => composeBehind c [] r

end InferenceDispatch.Text
