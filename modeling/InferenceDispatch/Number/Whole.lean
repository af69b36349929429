namespace InferenceDispatch.Whole

def wordBound : Nat := 0x10000000000000000

def signedBound : Nat := 0x8000000000000000

def maxWord : Nat := wordBound - 1

def saturate (n : Nat) : Nat := min n maxWord

/-- A count as a 64-bit word has it: whatever lies above is cut off. -/
def wrap (n : Nat) : Nat := n % wordBound

theorem wrap_of_lt {n : Nat} (h : n < wordBound) : wrap n = n := Nat.mod_eq_of_lt h

theorem wrap_wrap_add (m n : Nat) : wrap (wrap m + n) = wrap (m + n) := Nat.mod_add_mod m wordBound n

def isDigit (c : Char) : Bool := '0' ≤ c && c ≤ '9'

def digitValue (c : Char) : Nat := c.toNat - '0'.toNat

def ofDigits (s : List Char) : Nat := s.foldl (fun n c => 10 * n + digitValue c) 0

def readDigits? (s : List Char) : Option Nat :=
  if !s.isEmpty && s.all isDigit then some (ofDigits s) else none

def readSigned? : List Char → Option Int
  | '-' :: r => (readDigits? r).map fun n => -(n : Int)
  | '+' :: r => (readDigits? r).map Int.ofNat
  | s => (readDigits? s).map Int.ofNat

/-- A count of at most 64 bits; a plus sign may stand in front. -/
def readWord? (s : List Char) : Option Nat :=
  (match s with
    | '+' :: r => readDigits? r
    | s => readDigits? s).filter (· ≤ maxWord)

def SpellsWord (s : List Char) (n : Nat) : Prop :=
  ∃ digits, (s = digits ∨ s = '+' :: digits) ∧ digits ≠ [] ∧ (∀ c ∈ digits, isDigit c = true) ∧
    ofDigits digits = n ∧ n ≤ maxWord

theorem readDigits?_eq_some_iff {s : List Char} {n : Nat} :
    readDigits? s = some n ↔ s ≠ [] ∧ (∀ c ∈ s, isDigit c = true) ∧ ofDigits s = n := by
  simp [readDigits?, and_assoc]

theorem readWord?_eq_some_iff {s : List Char} {n : Nat} : readWord? s = some n ↔ SpellsWord s n := by
  unfold readWord?
  split
  next r =>
    simp only [Option.filter_eq_some_iff, readDigits?_eq_some_iff, decide_eq_true_eq]
    constructor
    · rintro ⟨⟨nonempty, digits, value⟩, fits⟩
      exact ⟨r, Or.inr rfl, nonempty, digits, value, fits⟩
    · rintro ⟨r', rfl | hr, nonempty, digits, value, fits⟩
      · -- a plus sign is no digit
        exact absurd (digits '+' List.mem_cons_self) (by decide)
      · obtain rfl := (List.cons.inj hr).2
        exact ⟨⟨nonempty, digits, value⟩, fits⟩
  next unsigned =>
    simp only [Option.filter_eq_some_iff, readDigits?_eq_some_iff, decide_eq_true_eq]
    constructor
    · rintro ⟨⟨nonempty, digits, value⟩, fits⟩
      exact ⟨s, Or.inl rfl, nonempty, digits, value, fits⟩
    · rintro ⟨r, rfl | hr, nonempty, digits, value, fits⟩
      · exact ⟨⟨nonempty, digits, value⟩, fits⟩
      · exact absurd hr (unsigned r)

def readInt64? (s : List Char) : Option Int :=
  (readSigned? s).filter fun n => -(signedBound : Int) ≤ n && n < (signedBound : Int)

/-- Exactly `width` digits at the start of a text with a value from `low` to `high`, and what
follows them. -/
def digitsAhead? (width low high : Nat) (s : List Char) : Option (Nat × List Char) := do
  let n ← readDigits? (s.take width)
  if (s.take width).length = width ∧ low ≤ n ∧ n ≤ high then some (n, s.drop width) else none

def hexValue? (c : Char) : Option Nat :=
  if isDigit c then some (digitValue c)
  else if 'a' ≤ c && c ≤ 'f' then some (c.toNat - 'a'.toNat + 10)
  else if 'A' ≤ c && c ≤ 'F' then some (c.toNat - 'A'.toNat + 10)
  else none

def ofBase? (base : Nat) (s : List Char) : Option Nat :=
  s.foldlM (fun n c => ((hexValue? c).filter (· < base)).map fun d => base * n + d) 0

def hexAhead? (width : Nat) (s : List Char) : Option (Nat × List Char) :=
  if (s.take width).length = width then (ofBase? 16 (s.take width)).map fun n => (n, s.drop width)
  else none

def text (n : Nat) : String := String.ofList (Nat.toDigits 10 n)

def padded (width n : Nat) : String :=
  let digits := Nat.toDigits 10 n
  String.ofList (List.replicate (width - digits.length) '0' ++ digits)

end InferenceDispatch.Whole
