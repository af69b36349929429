namespace InferenceDispatch

/-- Values by key; the keys are distinct and stand in the order of their first insertion. -/
structure Table (κ υ : Type) where
  entries : List (κ × υ)
  nodup : (entries.map Prod.fst).Nodup
deriving DecidableEq

namespace Table

variable {κ υ : Type}

def empty : Table κ υ := ⟨[], List.nodup_nil⟩

instance : Inhabited (Table κ υ) := ⟨empty⟩

def keys (t : Table κ υ) : List κ := t.entries.map Prod.fst

def values (t : Table κ υ) : List υ := t.entries.map Prod.snd

def size (t : Table κ υ) : Nat := t.entries.length

def filter (p : κ → υ → Bool) (t : Table κ υ) : Table κ υ where
  entries := t.entries.filter fun e => p e.1 e.2
  nodup := t.nodup.sublist (List.filter_sublist.map _)

def mapValues {ω : Type} (f : κ → υ → ω) (t : Table κ υ) : Table κ ω where
  entries := t.entries.map fun e => (e.1, f e.1 e.2)
  nodup := by
    have h : (t.entries.map fun e => (e.1, f e.1 e.2)).map Prod.fst = t.entries.map Prod.fst := by
      simp [List.map_map, Function.comp_def]
    rw [h]
    exact t.nodup

variable [DecidableEq κ]

def get? (t : Table κ υ) (k : κ) : Option υ :=
  (t.entries.find? fun e => e.1 = k).map Prod.snd

def contains (t : Table κ υ) (k : κ) : Bool := t.entries.any fun e => e.1 = k

def modify (t : Table κ υ) (k : κ) (f : υ → υ) : Table κ υ :=
  t.mapValues fun k' v => if k' = k then f v else v

def erase (t : Table κ υ) (k : κ) : Table κ υ := t.filter fun k' _ => k' ≠ k

def insertNew (t : Table κ υ) (k : κ) (v : υ) : Table κ υ :=
  if h : k ∈ t.entries.map Prod.fst then t
  else
    { entries := t.entries ++ [(k, v)]
      nodup := by
        rw [List.map_append]
        exact List.nodup_append.mpr ⟨t.nodup, by simp, fun a ha b hb hab => by
          simp only [List.map_cons, List.map_nil, List.mem_singleton] at hb
          exact h (hb ▸ hab ▸ ha)⟩ }

/-- Stores a value: in place when the key is known, at the end when it is new. -/
def insert (t : Table κ υ) (k : κ) (v : υ) : Table κ υ := (t.modify k fun _ => v).insertNew k v

def ofList (l : List (κ × υ)) : Table κ υ := l.foldl (fun t e => t.insert e.1 e.2) empty

theorem keys_modify (t : Table κ υ) (k : κ) (f : υ → υ) : (t.modify k f).keys = t.keys := by
  simp [keys, modify, mapValues, List.map_map, Function.comp_def]

end Table

end InferenceDispatch
