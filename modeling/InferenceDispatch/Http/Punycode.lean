namespace InferenceDispatch.Http.Punycode

def digit (n : Nat) : Char := Char.ofNat (if n < 26 then 'a'.toNat + n else '0'.toNat + n - 26)

def digitValue? (c : Char) : Option Nat := (List.range 36).find? fun n => digit n = c

/-- The least digit that is followed by another one at a place of a number. -/
def threshold (bias place : Nat) : Nat := min 26 (max 1 (place - bias))

def writeNumber (bias place n : Nat) : List Char :=
  let t := threshold bias place
  if n < t then [digit n]
  else digit (t + (n - t) % (36 - t)) :: writeNumber bias (place + 36) ((n - t) / (36 - t))
termination_by n
decreasing_by
  have ht : 1 ≤ threshold bias place := by unfold threshold; omega
  exact Nat.lt_of_le_of_lt (Nat.div_le_self _ _) (by omega)

/-- The bias after the scaling of a step: large steps are expected after large ones. -/
def settle (step bias : Nat) : Nat :=
  if 455 < step then settle (step / 35) (bias + 36) else bias + 36 * step / (step + 38)
termination_by step
decreasing_by omega

def adapt (first : Bool) (step count : Nat) : Nat :=
  let scaled := if first then step / 700 else step / 2
  settle (scaled + scaled / count) 0

/-- A text in the course of writing. Its ASCII characters come first; then every other character, by ascending
code point, as the number of steps from the place where the one before it was inserted. -/
structure Writing where
  done : List Char
  steps : Nat
  bias : Nat
  count : Nat

def Writing.pass (basic n : Nat) (w : Writing) (c : Char) : Writing :=
  if c.toNat < n then { w with steps := w.steps + 1 }
  else if c.toNat = n then
    { done := w.done ++ writeNumber w.bias 36 w.steps
      steps := 0
      bias := adapt (w.count = basic) w.steps (w.count + 1)
      count := w.count + 1 }
  else w

def Writing.passAll (s : List Char) (basic : Nat) (w : Writing) (low : Nat) : List Nat → Writing
  | [] => w
  | n :: r =>
    let w := { w with steps := w.steps + (n - low) * (w.count + 1) }
    let w := s.foldl (pass basic n) w
    passAll s basic { w with steps := w.steps + 1 } (n + 1) r

def isBasic (c : Char) : Bool := c.toNat < 0x80

def encode (s : List Char) : List Char :=
  let basic := s.filter isBasic
  let others := ((s.filter fun c => !isBasic c).map Char.toNat).mergeSort.eraseDups
  let w : Writing := ⟨[], 0, 72, basic.length⟩
  basic ++ (if basic.isEmpty then [] else ['-']) ++ (w.passAll s basic.length 0x80 others).done

def readNumber? (bias place weight : Nat) : List Char → Option (Nat × List Char)
  | [] => none
  | c :: r => do
    let d ← digitValue? c
    let t := threshold bias place
    if d < t then pure (d * weight, r)
    else
      let (n, r) ← readNumber? bias (place + 36) (weight * (36 - t)) r
      pure (d * weight + n, r)

/-- Inserts the characters whose numbers stand in a text of at most `bound` of them. -/
def insertAll (bias steps n : Nat) (done : List Char) : (bound : Nat) → List Char →
    Option (List Char)
  | _, [] => some done
  | 0, _ :: _ => none
  | bound + 1, s => do
    let (step, r) ← readNumber? bias 36 1 s
    let count := done.length + 1
    let n := n + (steps + step) / count
    let place := (steps + step) % count
    if n.isValidChar then
      insertAll (adapt (steps = 0) step count) (place + 1) n
        (done.insertIdx place (Char.ofNat n)) bound r
    else none

def decode? (s : List Char) : Option (List Char) :=
  let tail := (s.reverse.takeWhile (· ≠ '-')).reverse
  let basic := (s.take (s.length - tail.length)).dropLast
  (insertAll 72 0 0x80 basic tail.length tail).filter fun t => encode t = s

end InferenceDispatch.Http.Punycode
