import InferenceDispatch.Collections.SortedMap
import InferenceDispatch.Collections.Table
import Mathlib.Data.List.Induction
import Mathlib.Data.List.Nodup

namespace InferenceDispatch

theorem find?_key_eq_some_iff {α κ : Type} [DecidableEq κ] {key : α → κ} {l : List α}
    (nodup : (l.map key).Nodup) {k : κ} {a : α} :
    (l.find? fun x => key x = k) = some a ↔ a ∈ l ∧ key a = k := by
  refine ⟨fun h => ⟨List.mem_of_find?_eq_some h, by simpa using List.find?_some h⟩, ?_⟩
  rintro ⟨ha, rfl⟩
  have present : (l.find? fun x => key x = key a).isSome := by simpa using ⟨a, ha, rfl⟩
  obtain ⟨b, hb⟩ := Option.isSome_iff_exists.mp present
  have same : key b = key a := by simpa using List.find?_some hb
  rw [hb, List.inj_on_of_nodup_map nodup (List.mem_of_find?_eq_some hb) ha same]

theorem find?_key_eq_none {α κ : Type} [DecidableEq κ] {key : α → κ} {l : List α} {k : κ}
    (h : k ∉ l.map key) : (l.find? fun x => key x = k) = none := by
  simp only [List.find?_eq_none, decide_eq_true_eq]
  intro a ha hk
  exact h (hk ▸ List.mem_map_of_mem ha)

theorem filter_key {α κ : Type} [DecidableEq κ] {key : α → κ} {l : List α} (nodup : (l.map key).Nodup)
    (k : κ) : (l.filter fun a => key a = k) = (l.find? fun a => key a = k).toList := by
  induction l with
  | nil => rfl
  | cons a l ih =>
    obtain ⟨ha, nodup⟩ := List.nodup_cons.mp nodup
    by_cases hk : key a = k
    · have none_left : (l.filter fun a => key a = k) = [] := by
        rw [ih nodup, find?_key_eq_none (hk ▸ ha)]
        rfl
      simp [hk, none_left]
    · simp [hk, ih nodup]

/-- Writing the items of a list one after another leaves at each key what the last of its items wrote there. -/
theorem lookup_foldl_last {σ α κ υ : Type} [DecidableEq κ] (lookup : σ → κ → Option υ)
    {step : σ → α → σ} {key : α → κ} {value : α → υ}
    (write : ∀ s a k, lookup (step s a) k = if k = key a then some (value a) else lookup s k)
    (l : List α) (s : σ) (k : κ) : lookup (l.foldl step s) k =
      ((l.filter fun a => key a = k).getLast?.map value).or (lookup s k) := by
  induction l using List.reverseRecOn with
  | nil => rfl
  | append_singleton l a ih =>
    rw [List.foldl_concat, write, ih, List.filter_append]
    by_cases hk : key a = k
    · simp [hk]
    · simp [hk, Ne.symm hk]

theorem lookup_foldl {σ α κ υ : Type} [DecidableEq κ] (lookup : σ → κ → Option υ) {step : σ → α → σ}
    {key : α → κ} {value : α → υ}
    (write : ∀ s a k, lookup (step s a) k = if k = key a then some (value a) else lookup s k)
    {l : List α} (nodup : (l.map key).Nodup) (s : σ) (k : κ) : lookup (l.foldl step s) k =
      ((l.find? fun a => key a = k).map value).or (lookup s k) := by
  rw [lookup_foldl_last lookup write, filter_key nodup]
  cases l.find? fun a => key a = k <;> rfl

theorem length_eq_of_mem_iff {α : Type} {l l' : List α} (nodup : l.Nodup) (nodup' : l'.Nodup)
    (h : ∀ x, x ∈ l' ↔ x ∈ l) : l'.length = l.length :=
  ((List.perm_ext_iff_of_nodup nodup' nodup).mpr h).length_eq

theorem length_eq_succ_of_mem_iff {α : Type} {l l' : List α} {a : α} (nodup : l.Nodup)
    (nodup' : l'.Nodup) (new : a ∉ l) (h : ∀ x, x ∈ l' ↔ x = a ∨ x ∈ l) :
    l'.length = l.length + 1 := by
  have longer : (a :: l).Nodup := List.nodup_cons.mpr ⟨new, nodup⟩
  exact length_eq_of_mem_iff longer nodup' fun x => by rw [h, List.mem_cons]

namespace Table

variable {κ υ : Type} [DecidableEq κ]

theorem get?_eq_some_iff {t : Table κ υ} {k : κ} {v : υ} :
    t.get? k = some v ↔ (k, v) ∈ t.entries := by
  simp only [get?, Option.map_eq_some_iff, find?_key_eq_some_iff t.nodup]
  constructor
  · rintro ⟨e, ⟨he, rfl⟩, rfl⟩
    exact he
  · intro h
    exact ⟨(k, v), ⟨h, rfl⟩, rfl⟩

theorem get?_eq_none_iff {t : Table κ υ} {k : κ} : t.get? k = none ↔ k ∉ t.keys := by
  simp only [get?, keys, Option.map_eq_none_iff, List.find?_eq_none, decide_eq_true_eq,
    List.mem_map, not_exists, not_and]

@[simp] theorem get?_empty (k : κ) : (empty : Table κ υ).get? k = none := rfl

@[simp] theorem get?_filter (t : Table κ υ) (p : κ → υ → Bool) (k : κ) :
    (t.filter p).get? k = (t.get? k).filter (p k) := by
  ext v
  simp [get?_eq_some_iff, filter, Option.filter_eq_some_iff]

@[simp] theorem get?_mapValues {ω : Type} (t : Table κ υ) (f : κ → υ → ω) (k : κ) :
    (t.mapValues f).get? k = (t.get? k).map (f k) := by
  ext w
  simp only [get?_eq_some_iff, mapValues, List.mem_map, Prod.mk.injEq, Option.map_eq_some_iff]
  constructor
  · rintro ⟨⟨_, v⟩, h, rfl, rfl⟩
    exact ⟨v, h, rfl⟩
  · rintro ⟨v, h, rfl⟩
    exact ⟨(k, v), h, rfl, rfl⟩

theorem get?_modify (t : Table κ υ) (k k' : κ) (f : υ → υ) :
    (t.modify k f).get? k' = if k' = k then (t.get? k').map f else t.get? k' := by
  unfold modify
  split <;> simp [*]

theorem get?_erase (t : Table κ υ) (k k' : κ) :
    (t.erase k).get? k' = if k' = k then none else t.get? k' := by
  unfold erase
  rw [get?_filter]
  cases t.get? k' with
  | none => simp
  | some v => by_cases h : k' = k <;> simp [h]

theorem get?_insertNew (t : Table κ υ) (k k' : κ) (v : υ) :
    (t.insertNew k v).get? k' = if k' = k then some ((t.get? k').getD v) else t.get? k' := by
  unfold insertNew
  split
  next known =>
    split
    next hk =>
      subst hk
      cases hg : t.get? k' with
      | none => exact absurd known (get?_eq_none_iff.mp hg)
      | some w => rfl
    next => rfl
  next new =>
    have absent : t.get? k = none := get?_eq_none_iff.mpr new
    ext w
    simp only [get?_eq_some_iff, List.mem_append, List.mem_singleton, Prod.mk.injEq]
    split
    next hk => subst hk; simp [← get?_eq_some_iff, absent, eq_comm]
    next hk => simp [← get?_eq_some_iff, hk]

theorem keys_insertNew (t : Table κ υ) (k : κ) (v : υ) :
    (t.insertNew k v).keys = if k ∈ t.keys then t.keys else t.keys ++ [k] := by
  unfold insertNew
  split
  next known => exact (if_pos known).symm
  next new => exact (List.map_append ..).trans (if_neg new).symm

omit [DecidableEq κ] in
theorem keys_filter (t : Table κ υ) (p : κ → Bool) :
    (t.filter fun k _ => p k).keys = t.keys.filter p := by
  simp [keys, filter, List.filter_map, Function.comp_def]

theorem filter_eq_self {t : Table κ υ} {p : κ → υ → Bool}
    (h : ∀ k v, t.get? k = some v → p k v = true) : t.filter p = t := by
  have entries : t.entries.filter (fun e => p e.1 e.2) = t.entries :=
    List.filter_eq_self.mpr fun e he => h e.1 e.2 (get?_eq_some_iff.mpr he)
  cases t
  simpa [filter] using entries

omit [DecidableEq κ] in
theorem filter_filter (t : Table κ υ) (p p' : κ → υ → Bool) :
    (t.filter p).filter p' = t.filter fun k v => p k v && p' k v := by
  simp [filter, List.filter_filter, Bool.and_comm]

theorem get?_insert (t : Table κ υ) (k k' : κ) (v : υ) :
    (t.insert k v).get? k' = if k' = k then some v else t.get? k' := by
  unfold insert
  rw [get?_insertNew, get?_modify]
  split
  next => cases t.get? k' <;> rfl
  next => rfl

theorem insert_of_get? {t : Table κ υ} {k : κ} {v : υ} (h : t.get? k = some v) (w : υ) :
    t.insert k w = t.modify k fun _ => w := by
  have known : k ∈ (t.modify k fun _ => w).entries.map Prod.fst := by
    have hk : k ∈ t.keys := List.mem_map_of_mem (get?_eq_some_iff.mp h)
    rw [← keys_modify t k fun _ => w] at hk
    exact hk
  exact dif_pos known

theorem modify_comm (t : Table κ υ) (k k' : κ) {f g : υ → υ}
    (h : k = k' → ∀ v, f (g v) = g (f v)) :
    (t.modify k f).modify k' g = (t.modify k' g).modify k f := by
  unfold modify mapValues
  simp only [List.map_map, mk.injEq]
  refine List.map_congr_left fun e _ => ?_
  by_cases hk : e.1 = k
  · by_cases hk' : e.1 = k'
    · simp only [Function.comp_apply, if_pos hk, if_pos hk', h (hk.symm.trans hk')]
    · simp only [Function.comp_apply, if_pos hk, if_neg hk']
  · simp only [Function.comp_apply, if_neg hk]

theorem contains_iff {t : Table κ υ} {k : κ} : t.contains k = true ↔ ∃ v, t.get? k = some v := by
  simp [contains, get?_eq_some_iff]

theorem get?_ofList (l : List (κ × υ)) (k : κ) :
    (ofList l).get? k = (l.filter fun e => e.1 = k).getLast?.map Prod.snd :=
  (lookup_foldl_last get? (fun t e k => get?_insert t e.1 k e.2) l empty k).trans Option.or_none

end Table

namespace SortedMap

variable {κ υ : Type} [LT κ] [KeyOrder κ]

theorem nodup_keys (m : SortedMap κ υ) : m.keys.Nodup := by
  refine List.pairwise_map.mpr (m.sorted.imp ?_)
  intro a b h he
  exact KeyOrder.irrefl (he ▸ h)

variable [DecidableEq κ]

theorem get?_eq_some_iff {m : SortedMap κ υ} {k : κ} {v : υ} :
    m.get? k = some v ↔ (k, v) ∈ m.entries := by
  simp only [get?, Option.map_eq_some_iff, find?_key_eq_some_iff m.nodup_keys]
  constructor
  · rintro ⟨e, ⟨he, rfl⟩, rfl⟩
    exact he
  · intro h
    exact ⟨(k, v), ⟨h, rfl⟩, rfl⟩

theorem ext_get? {m m' : SortedMap κ υ} (h : ∀ k, m.get? k = m'.get? k) : m = m' := by
  have same : ∀ e, e ∈ m.entries ↔ e ∈ m'.entries := by
    intro e
    rw [← get?_eq_some_iff, ← get?_eq_some_iff, h]
  have perm : m.entries.Perm m'.entries :=
    (List.perm_ext_iff_of_nodup (.of_map _ m.nodup_keys) (.of_map _ m'.nodup_keys)).mpr same
  have entries : m.entries = m'.entries :=
    perm.eq_of_pairwise (fun a b _ _ hab hba => absurd (KeyOrder.trans hab hba) KeyOrder.irrefl)
      m.sorted m'.sorted
  cases m
  cases m'
  simpa using entries

omit [KeyOrder κ] in
@[simp] theorem get?_empty (k : κ) : (empty : SortedMap κ υ).get? k = none := rfl

theorem get?_filter (m : SortedMap κ υ) (p : κ → υ → Bool) (k : κ) :
    (m.filter p).get? k = (m.get? k).filter (p k) := by
  ext v
  simp [get?_eq_some_iff, filter, Option.filter_eq_some_iff]

theorem get?_erase (m : SortedMap κ υ) (k k' : κ) :
    (m.erase k).get? k' = if k' = k then none else m.get? k' := by
  unfold erase
  rw [get?_filter]
  cases m.get? k' with
  | none => simp
  | some v => by_cases h : k' = k <;> simp [h]

theorem erase_comm (m : SortedMap κ υ) (k k' : κ) : (m.erase k).erase k' = (m.erase k').erase k :=
  ext_get? fun x => by
    simp only [get?_erase]
    split <;> split <;> rfl

theorem contains_iff {m : SortedMap κ υ} {k : κ} :
    m.contains k = true ↔ ∃ v, m.get? k = some v := by
  simp [contains, get?_eq_some_iff]

theorem erase_of_get? {m : SortedMap κ υ} {k : κ} (h : m.get? k = none) : m.erase k = m :=
  ext_get? fun k' => by
    rw [get?_erase]
    split
    next hk => rw [hk, h]
    next => rfl

/-- The entry that is split off has the smallest key, and all others stay. -/
theorem popFirst?_eq_some {m m' : SortedMap κ υ} {k : κ} {v : υ}
    (h : m.popFirst? = some ((k, v), m')) :
    m.get? k = some v ∧ m' = m.erase k ∧ ∀ k' ∈ m.keys, k' = k ∨ k < k' := by
  obtain ⟨entries, sorted⟩ := m
  cases entries with
  | nil => simp [popFirst?] at h
  | cons e r =>
    obtain ⟨he, hr⟩ := List.pairwise_cons.mp sorted
    simp only [popFirst?, Option.some.injEq, Prod.mk.injEq] at h
    obtain ⟨rfl, rfl⟩ := h
    refine ⟨get?_eq_some_iff.mpr List.mem_cons_self, ?_, ?_⟩
    · have kept : r.filter (fun x => x.1 ≠ k) = r := by
        refine List.filter_eq_self.mpr fun x hx => ?_
        simpa using fun hk => KeyOrder.irrefl (hk ▸ he x hx)
      simpa [erase, filter] using kept.symm
    · intro k' hk'
      obtain ⟨x, hx, rfl⟩ := List.mem_map.mp hk'
      rcases List.mem_cons.mp hx with rfl | hx
      · exact Or.inl rfl
      · exact Or.inr (he x hx)

omit [KeyOrder κ] in
theorem popFirst?_eq_none {m : SortedMap κ υ} (h : m.popFirst? = none) (k : κ) :
    m.get? k = none := by
  obtain ⟨entries, sorted⟩ := m
  cases entries with
  | nil => rfl
  | cons e r => simp [popFirst?] at h

variable [DecidableLT κ]

theorem find?_place (k k' : κ) (v : υ) (l : List (κ × υ)) :
    (place k v l).find? (fun e => e.1 = k') =
      if k' = k then some (k, v) else l.find? fun e => e.1 = k' := by
  induction l with
  | nil => by_cases h : k' = k <;> simp [place, h, eq_comm]
  | cons e r ih =>
    unfold place
    split
    next => by_cases h : k' = k <;> simp [h, eq_comm]
    next hk =>
      split
      next hek =>
        have hne : e.1 ≠ k := fun h => KeyOrder.irrefl (h ▸ hek)
        by_cases h : k' = k
        · subst h; simp [hne, ih]
        · simp [List.find?_cons, h, ih]
      next hek =>
        have he : k = e.1 := KeyOrder.connected hk hek
        by_cases h : k' = k
        · simp [h]
        · have hne : e.1 ≠ k' := fun h' => h (he ▸ h').symm
          simp [h, hne, Ne.symm h]

theorem get?_insert (m : SortedMap κ υ) (k k' : κ) (v : υ) :
    (m.insert k v).get? k' = if k' = k then some v else m.get? k' := by
  unfold get? insert
  rw [find?_place]
  split <;> rfl

theorem get?_ofList (l : List (κ × υ)) (k : κ) :
    (ofList l).get? k = (l.filter fun e => e.1 = k).getLast?.map Prod.snd :=
  (lookup_foldl_last get? (fun m e k => get?_insert m e.1 k e.2) l empty k).trans Option.or_none

end SortedMap

end InferenceDispatch
