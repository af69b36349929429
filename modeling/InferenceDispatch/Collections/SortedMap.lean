namespace InferenceDispatch

class KeyOrder (κ : Type) [LT κ] : Prop where
  irrefl {a : κ} : ¬a < a
  trans {a b c : κ} : a < b → b < c → a < c
  connected {a b : κ} : ¬a < b → ¬b < a → a = b

instance : KeyOrder String :=
  ⟨String.lt_irrefl _, String.lt_trans, fun h k => String.le_antisymm (String.not_lt.mp k) (String.not_lt.mp h)⟩

instance : KeyOrder Nat :=
  ⟨Nat.lt_irrefl _, Nat.lt_trans, fun h k => Nat.le_antisymm (Nat.not_lt.mp k) (Nat.not_lt.mp h)⟩

structure SortedMap (κ υ : Type) [LT κ] where
  entries : List (κ × υ)
  sorted : entries.Pairwise fun a b => a.1 < b.1
deriving DecidableEq

namespace SortedMap

variable {κ υ : Type} [LT κ]

def empty : SortedMap κ υ := ⟨[], List.Pairwise.nil⟩

instance : Inhabited (SortedMap κ υ) := ⟨empty⟩

def keys (m : SortedMap κ υ) : List κ := m.entries.map Prod.fst

def values (m : SortedMap κ υ) : List υ := m.entries.map Prod.snd

def size (m : SortedMap κ υ) : Nat := m.entries.length

def isEmpty (m : SortedMap κ υ) : Bool := m.entries.isEmpty

def filter (p : κ → υ → Bool) (m : SortedMap κ υ) : SortedMap κ υ where
  entries := m.entries.filter fun e => p e.1 e.2
  sorted := m.sorted.filter _

def popFirst? (m : SortedMap κ υ) : Option ((κ × υ) × SortedMap κ υ) :=
  match m with
  | ⟨[], _⟩ => none
  | ⟨e :: r, h⟩ => some (e, ⟨r, (List.pairwise_cons.mp h).2⟩)

section Keys

variable [DecidableEq κ]

def get? (m : SortedMap κ υ) (k : κ) : Option υ :=
  (m.entries.find? fun e => e.1 = k).map Prod.snd

def contains (m : SortedMap κ υ) (k : κ) : Bool := m.entries.any fun e => e.1 = k

def erase (m : SortedMap κ υ) (k : κ) : SortedMap κ υ := m.filter fun k' _ => k' ≠ k

end Keys

section Order

variable [DecidableLT κ]

/-- Puts a pair at its place in a sorted list, replacing the pair of an equal key. -/
def place (k : κ) (v : υ) : List (κ × υ) → List (κ × υ)
  | [] => [(k, v)]
  | e :: r =>
    if k < e.1 then (k, v) :: e :: r else if e.1 < k then e :: place k v r else (k, v) :: r

theorem mem_place {k : κ} {v : υ} {l : List (κ × υ)} {e : κ × υ} (h : e ∈ place k v l) :
    e = (k, v) ∨ e ∈ l := by
  induction l with
  | nil => simpa [place] using h
  | cons a r ih =>
    unfold place at h
    split at h
    · simpa using h
    · split at h
      · rcases List.mem_cons.mp h with rfl | h
        · simp
        · rcases ih h with h | h <;> simp [h]
      · rcases List.mem_cons.mp h with rfl | h
        · simp
        · simp [h]

variable [KeyOrder κ]

theorem sorted_place (k : κ) (v : υ) {l : List (κ × υ)}
    (h : l.Pairwise fun a b => a.1 < b.1) : (place k v l).Pairwise fun a b => a.1 < b.1 := by
  induction l with
  | nil => simp [place]
  | cons a r ih =>
    obtain ⟨ha, hr⟩ := List.pairwise_cons.mp h
    unfold place
    split
    · next hk =>
      refine List.pairwise_cons.mpr ⟨fun b hb => ?_, h⟩
      rcases List.mem_cons.mp hb with rfl | hb
      · exact hk
      · exact KeyOrder.trans hk (ha b hb)
    · next hk =>
      split
      · next hak =>
        refine List.pairwise_cons.mpr ⟨fun b hb => ?_, ih hr⟩
        rcases mem_place hb with rfl | hb
        · exact hak
        · exact ha b hb
      · next hak =>
        have he : k = a.1 := KeyOrder.connected hk hak
        exact List.pairwise_cons.mpr ⟨fun b hb => he ▸ ha b hb, hr⟩

def insert (m : SortedMap κ υ) (k : κ) (v : υ) : SortedMap κ υ :=
  ⟨place k v m.entries, sorted_place k v m.sorted⟩

/-- The map of a list of pairs; a later pair replaces an earlier one of the same key. -/
def ofList (l : List (κ × υ)) : SortedMap κ υ := l.foldl (fun m e => m.insert e.1 e.2) empty

end Order

end SortedMap

end InferenceDispatch
