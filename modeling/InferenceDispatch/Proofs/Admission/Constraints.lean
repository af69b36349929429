import InferenceDispatch.Admission
import InferenceDispatch.Proofs.ModelString.Grammar

namespace InferenceDispatch

open ModelString

namespace Policy

/-- A threshold of the policy that one key sets: from the texts that `read?` reads, among them whatever a
request keeps for a text, and by no other key. -/
structure Sets {β : Type} (key : String) (read? : String → Option β) (part : Policy Double → β) :
    Prop where
  own : ∀ {p p' v}, override? p key v = some p' → read? v = some (part p')
  others : ∀ {p p' k v}, k ≠ key → override? p k v = some p' → part p' = part p
  kept : ∀ {v w}, acceptedValue? key v = some w → read? w = read? v

/-- The policy that a model string builds on: the default policy, unless it declined that last. -/
def basis (defaults : Policy Double) (field : String) : Policy Double :=
  if (lastGiven "default" (given field)).all (· = "true") then defaults else permissive

/-- The threshold that takes effect: what the model string gives last, else that of the policy it builds
on. -/
def effective {β : Type} (key : String) (read? : String → Option β) (part : Policy Double → β)
    (defaults : Policy Double) (field : String) : β :=
  ((lastGiven key (given field)).bind read?).getD (part (basis defaults field))

def effectivePrivacy : Policy Double → String → PrivacyTier :=
  effective "privacy" PrivacyTier.read? Policy.privacy

def effectiveCost : Policy Double → String → Double :=
  effective "cost" (fun v => readDouble? v.toList) Policy.cost

theorem override?_cases {p p' : Policy Double} {key value : String}
    (h : override? p key value = some p') :
    (key = "privacy" ∧ ∃ t, PrivacyTier.read? value = some t ∧ p' = { p with privacy := t }) ∨
    ∃ x, readDouble? value.toList = some x ∧
      (key = "cost" ∧ p' = { p with cost := x } ∨ key = "latency" ∧ p' = { p with latency := x } ∨
        key = "accuracy" ∧ p' = { p with accuracy := x } ∨
          key = "quality" ∧ p' = { p with quality := x }) := by
  unfold override? at h
  split at h
  next =>
    obtain ⟨t, ht, rfl⟩ := Option.map_eq_some_iff.mp h
    exact Or.inl ⟨rfl, t, ht, rfl⟩
  iterate 4
    next =>
      obtain ⟨x, hx, rfl⟩ := Option.map_eq_some_iff.mp h
      exact Or.inr ⟨x, hx, by simp⟩
  next => cases h

theorem override?_privacy {p p' : Policy Double} {value : String}
    (h : override? p "privacy" value = some p') :
    ∃ t, PrivacyTier.read? value = some t ∧ p' = { p with privacy := t } := by
  rcases override?_cases h with ⟨_, ht⟩ | ⟨_, _, hk⟩
  · exact ht
  · simp at hk

def thresholds : List (String × (Policy Double → Double)) :=
  [("cost", cost), ("latency", latency), ("accuracy", accuracy), ("quality", quality)]

theorem override?_threshold {p p' : Policy Double} {key value : String} (hk : key ≠ "privacy")
    (h : override? p key value = some p') : ∃ t ∈ thresholds, t.1 = key ∧
      readDouble? value.toList = some (t.2 p') ∧ p'.privacy = p.privacy ∧
      ∀ t' ∈ thresholds, key ≠ t'.1 → t'.2 p' = t'.2 p := by
  rcases override?_cases h with
    ⟨privacy, _⟩ | ⟨x, hx, ⟨rfl, rfl⟩ | ⟨rfl, rfl⟩ | ⟨rfl, rfl⟩ | ⟨rfl, rfl⟩⟩
  · exact absurd privacy hk
  · exact ⟨("cost", cost), by simp [thresholds], rfl, hx, rfl, by simp [thresholds]⟩
  · exact ⟨("latency", latency), by simp [thresholds], rfl, hx, rfl, by simp [thresholds]⟩
  · exact ⟨("accuracy", accuracy), by simp [thresholds], rfl, hx, rfl, by simp [thresholds]⟩
  · exact ⟨("quality", quality), by simp [thresholds], rfl, hx, rfl, by simp [thresholds]⟩

theorem acceptedValue?_threshold {key v w : String} (hk : key ∈ thresholdKeys)
    (h : acceptedValue? key v = some w) : isFiniteNumeral v = true ∧ v = w := by
  simpa [acceptedValue?, threshold_apart hk, hk] using h

theorem sets_privacy : Sets "privacy" PrivacyTier.read? Policy.privacy where
  own := by
    intro p p' v h
    obtain ⟨t, ht, rfl⟩ := override?_privacy h
    exact ht
  others := by
    intro p p' k v hk h
    obtain ⟨_, _, _, _, same, _⟩ := override?_threshold hk h
    exact same
  kept := by
    intro v w h
    obtain ⟨t, ht, rfl⟩ : ∃ t, PrivacyTier.read? v = some t ∧ t.name = w := by
      simpa [acceptedValue?] using h
    rw [PrivacyTier.read?_name, ht]

theorem threshold_key {t : String × (Policy Double → Double)} (ht : t ∈ thresholds) :
    t.1 ∈ thresholdKeys := by
  have all : ∀ t ∈ thresholds, t.1 ∈ thresholdKeys := by simp [thresholds, thresholdKeys]
  exact all t ht

theorem sets_threshold {t : String × (Policy Double → Double)} (ht : t ∈ thresholds) :
    Sets t.1 (fun v => readDouble? v.toList) t.2 where
  own := by
    intro p p' v h
    obtain ⟨t', ht', hkey, hv, _⟩ := override?_threshold (threshold_apart (threshold_key ht)).2 h
    have keys : (thresholds.map Prod.fst).Nodup := by decide
    rwa [List.inj_on_of_nodup_map keys ht' ht hkey] at hv
  others := by
    intro p p' k v hk h
    by_cases privacy : k = "privacy"
    · subst privacy
      obtain ⟨_, _, rfl⟩ := override?_privacy h
      simp only [thresholds, List.mem_cons, List.not_mem_nil, or_false] at ht
      rcases ht with rfl | rfl | rfl | rfl
      all_goals rfl
    · obtain ⟨_, _, _, _, _, same⟩ := override?_threshold privacy h
      exact same t ht hk
  kept := by
    intro v w h
    obtain ⟨_, rfl⟩ := acceptedValue?_threshold (threshold_key ht) h
    rfl

theorem sets_cost : Sets "cost" (fun v => readDouble? v.toList) Policy.cost :=
  sets_threshold (t := ("cost", cost)) List.mem_cons_self

variable {β : Type} {key : String} {read? : String → Option β} {part : Policy Double → β}

/-- Where every key is overridden once, a threshold is that of its override, or stays. -/
theorem Sets.foldlM (h : Sets key read? part) {l : List (String × String)}
    (nodup : (l.map Prod.fst).Nodup) {base p : Policy Double}
    (hp : l.foldlM (fun p e => ((override? p e.1 e.2).map Except.ok).getD
      (.error (Fault.invalidValue e.1 e.2))) base = .ok p) :
    part p = ((l.find? fun e => e.1 = key).bind fun e => read? e.2).getD (part base) := by
  induction l generalizing base with
  | nil =>
    obtain rfl := Except.ok.inj hp
    rfl
  | cons e l ih =>
    obtain ⟨he, nodup⟩ := List.nodup_cons.mp nodup
    rw [List.foldlM_cons] at hp
    obtain ⟨next, ho, hp⟩ := except_bind_eq_ok_iff.mp hp
    have rest := ih nodup hp
    replace ho : override? base e.1 e.2 = some next := by
      cases hv : override? base e.1 e.2 with
      | none => simp [hv] at ho
      | some v => simpa [hv] using ho
    rw [List.find?_cons]
    by_cases hk : e.1 = key
    · rw [find?_key_eq_none (hk ▸ he)] at rest
      have hread := h.own (hk ▸ ho)
      simp [hk, hread, rest]
    · simp [hk, rest, h.others hk ho]

theorem Sets.ofRequest (h : Sets key read? part) (overrides : key ≠ "default") {defaults p : Policy Double}
    {field : String} {r : Request} (hr : ModelString.read field = .ok r) (hp : ofRequest defaults r = .ok p) :
    part p = effective key read? part defaults field := by
  have keeps := keeps_read hr
  have nodup : (r.overrides.map Prod.fst).Nodup :=
    r.policy.nodup_keys.sublist (List.filter_sublist.map _)
  have found : (r.overrides.find? fun e => e.1 = key).bind (fun e => read? e.2) =
      (r.policy.get? key).bind read? := by
    rw [find?_overrides r overrides, SortedMap.get?]
    cases r.policy.entries.find? fun e => e.1 = key <;> rfl
  have value : (r.policy.get? key).bind read? = (lastGiven key (given field)).bind read? := by
    rw [keeps.policy key, if_neg overrides, Option.or_none]
    cases hl : lastGiven key (given field) with
    | none => rfl
    | some v =>
      obtain ⟨w, hw⟩ := keeps.accepted_last hl
      simp only [Option.bind_some, hw, h.kept hw]
  rw [effective, ← value, ← found, basis, ← keeps.usesDefault]
  exact h.foldlM nodup hp

end Policy

namespace Classified

theorem rankedBefore_iff (a b : Classified Double) : rankedBefore a b = true ↔
    totalKey b.weight < totalKey a.weight ∨
      totalKey a.weight = totalKey b.weight ∧ a.descriptor.model ≤ b.descriptor.model := by
  simp [rankedBefore]

theorem rankedBefore_trans (a b c : Classified Double) (hab : rankedBefore a b = true)
    (hbc : rankedBefore b c = true) : rankedBefore a c = true := by
  rw [rankedBefore_iff] at *
  rcases hab with hab | ⟨hab, hm⟩
  · rcases hbc with hbc | ⟨hbc, _⟩
    · exact Or.inl (by omega)
    · exact Or.inl (by omega)
  · rcases hbc with hbc | ⟨hbc, hm'⟩
    · exact Or.inl (by omega)
    · exact Or.inr ⟨hab.trans hbc, String.le_trans hm hm'⟩

theorem rankedBefore_total (a b : Classified Double) :
    (rankedBefore a b || rankedBefore b a) = true := by
  rw [Bool.or_eq_true, rankedBefore_iff, rankedBefore_iff]
  rcases Int.lt_trichotomy (totalKey a.weight) (totalKey b.weight) with h | h | h
  · exact Or.inr (Or.inl h)
  · rcases String.le_total (a := a.descriptor.model) (b := b.descriptor.model) with hm | hm
    · exact Or.inl (Or.inr ⟨h, hm⟩)
    · exact Or.inr (Or.inr ⟨h.symm, hm⟩)
  · exact Or.inl (Or.inl h)

theorem pairwise_rank (l : List (Classified Double)) :
    (rank l).Pairwise fun a b => rankedBefore a b = true :=
  List.pairwise_mergeSort rankedBefore_trans rankedBefore_total l

end Classified

/-- Every model of a catalog stands under its id, as it does in one that is made of descriptors. -/
def Catalog.Keyed {α : Type} (c : Catalog α) : Prop := ∀ e ∈ c.entries, e.1 = e.2.model

namespace Catalog

theorem keyed_put {α : Type} {c : Catalog α} (h : c.Keyed) (d : Descriptor α) : (c.put d).Keyed := by
  intro e he
  rcases SortedMap.mem_place he with rfl | he
  · rfl
  · exact h e he

theorem keyed_ofDescriptors {α : Type} (ds : List (Descriptor α)) : (ofDescriptors ds).Keyed := by
  have start : Keyed (SortedMap.empty : Catalog α) := by simp [Keyed, SortedMap.empty]
  unfold ofDescriptors
  generalize (SortedMap.empty : Catalog α) = c at start
  induction ds generalizing c with
  | nil => exact start
  | cons d ds ih => exact ih _ (keyed_put start d)

theorem Keyed.nodup {α : Type} {c : Catalog α} (h : c.Keyed) :
    (c.values.map Descriptor.model).Nodup := by
  have same : c.values.map Descriptor.model = c.keys := by
    rw [SortedMap.values, SortedMap.keys, List.map_map]
    exact List.map_congr_left fun e he => (h e he).symm
  exact same ▸ c.nodup_keys

end Catalog

namespace Admission

variable {catalog : Catalog Double} {settings : ClassifierSettings Double} {field : String}
  {priority : Priority} {p : Plan}

theorem read_trim (field : String) :
    ModelString.read (Text.trim field) = ModelString.read field := by
  unfold ModelString.read
  rw [Text.trimChars_trim]

theorem isModelString_trim (starts : stem.toList <+: Text.trimChars field.toList) :
    isModelString (Text.trim field).toList = true := by
  obtain ⟨rest, hrest⟩ := starts
  rw [isModelString, Text.trim, String.toList_ofList, Text.after?_eq_some_iff.mpr hrest.symm]
  rfl

theorem plan_eq_ok (starts : stem.toList <+: Text.trimChars field.toList)
    (h : plan catalog settings field priority = .ok p) : ∃ request policy,
      ModelString.read field = .ok request ∧ Policy.ofRequest settings.defaultPolicy request = .ok policy ∧
      p = ⟨.classified request policy, priority,
        Classified.rank (classify Double.exp settings.steepness settings.strict catalog policy)⟩ := by
  simp only [plan, isModelString_trim starts, if_pos, read_trim] at h
  obtain ⟨request, hr, h⟩ := except_bind_eq_ok_iff.mp h
  obtain ⟨policy, hp, h⟩ := except_bind_eq_ok_iff.mp h
  exact ⟨request, policy, hr, hp, (Except.ok.inj h).symm⟩

end Admission

end InferenceDispatch
