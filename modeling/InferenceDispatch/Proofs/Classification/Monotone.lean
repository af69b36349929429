import InferenceDispatch.Classification.Classifier
import InferenceDispatch.Proofs.Lookup
import Mathlib.Algebra.Order.BigOperators.Group.List
import Mathlib.Algebra.Order.Field.Basic
import Mathlib.Analysis.SpecialFunctions.Exp
import Mathlib.Data.List.Forall2

namespace InferenceDispatch

variable {α : Type}

/-- A policy that is stricter on privacy and cost, or as strict; what else it asks for is left open. -/
structure Policy.Tightens [LE α] (p' p : Policy α) : Prop where
  privacy : p.privacy.strictness ≤ p'.privacy.strictness
  cost : p.cost ≤ p'.cost

structure Policy.Eases [LE α] (p' p : Policy α) : Prop where
  privacy : p'.privacy = p.privacy
  cost : p'.cost = p.cost
  latency : p'.latency ≤ p.latency
  accuracy : p'.accuracy ≤ p.accuracy
  quality : p'.quality ≤ p.quality

/-- The same model, doing no worse in any of the weighed dimensions. -/
structure Descriptor.Outdoes [LE α] (d' d : Descriptor α) : Prop where
  model : d'.model = d.model
  provider : d'.provider = d.provider
  privacy : d'.privacy = d.privacy
  cost : d'.cost = d.cost
  slots : d'.slots = d.slots
  latency : d.latency ≤ d'.latency
  accuracy : d.accuracy ≤ d'.accuracy
  quality : d.quality ≤ d'.quality

/-- A model does as well as a policy asks in every weighed dimension. -/
structure Policy.Met [LE α] (p : Policy α) (d : Descriptor α) : Prop where
  latency : p.latency ≤ d.latency
  accuracy : p.accuracy ≤ d.accuracy
  quality : p.quality ≤ d.quality

/-- What a sigmoid needs of the exponential. -/
structure Exponential [Zero α] [Preorder α] (exp : α → α) : Prop where
  pos : ∀ x, 0 < exp x
  strictMono : StrictMono exp

theorem Descriptor.Outdoes.refl [Preorder α] (d : Descriptor α) : d.Outdoes d :=
  ⟨rfl, rfl, rfl, rfl, rfl, le_rfl, le_rfl, le_rfl⟩

theorem Policy.Eases.refl [Preorder α] (p : Policy α) : p.Eases p := ⟨rfl, rfl, le_rfl, le_rfl, le_rfl⟩

def Policy.dimensions (p : Policy α) (d : Descriptor α) : List (α × α) :=
  [(d.latency, p.latency), (d.accuracy, p.accuracy), (d.quality, p.quality)]

theorem Policy.met_iff [LE α] {p : Policy α} {d : Descriptor α} : p.Met d ↔ ∀ e ∈ p.dimensions d, e.2 ≤ e.1 := by
  simp only [dimensions, List.forall_mem_cons, List.not_mem_nil, false_implies, implies_true, and_true]
  exact ⟨fun h => ⟨h.latency, h.accuracy, h.quality⟩, fun h => ⟨h.1, h.2.1, h.2.2⟩⟩

section Constraints

variable [LinearOrder α] {c : Catalog α} {p p' : Policy α} {d d' : Descriptor α}

theorem Policy.Tightens.allows (h : p'.Tightens p) (allowed : p'.allows d = true) : p.allows d = true := by
  simp only [Policy.allows, PrivacyTier.satisfies, Bool.and_eq_true, decide_eq_true_eq] at allowed ⊢
  exact ⟨h.privacy.trans allowed.1, h.cost.trans allowed.2⟩

theorem Policy.Eases.allows_iff (h : p'.Eases p) (hd : d'.Outdoes d) :
    p'.allows d' = true ↔ p.allows d = true := by
  rw [allows, allows, h.privacy, h.cost, hd.privacy, hd.cost]

theorem SortedMap.forall₂_place {υ : Type} {R : υ → υ → Prop} (same : ∀ v, R v v) {k : String} {v v' : υ}
    (new : R v' v) {l : List (String × υ)} (sorted : l.Pairwise fun a b => a.1 < b.1) (mem : (k, v) ∈ l) :
    List.Forall₂ R ((place k v' l).map Prod.snd) (l.map Prod.snd) := by
  induction l with
  | nil => cases mem
  | cons e l ih =>
    obtain ⟨first, sorted⟩ := List.pairwise_cons.mp sorted
    rw [place]
    rcases List.mem_cons.mp mem with rfl | mem
    · rw [if_neg KeyOrder.irrefl, if_neg KeyOrder.irrefl]
      exact .cons new (List.forall₂_same.mpr fun v _ => same v)
    · have before : e.1 < k := first _ mem
      rw [if_neg fun after => KeyOrder.irrefl (KeyOrder.trans after before), if_pos before]
      exact .cons (same _) (ih sorted mem)

theorem Catalog.outdone_of_put (listed : c.get? d.model = some d) (h : d'.Outdoes d) :
    List.Forall₂ Descriptor.Outdoes (c.put d').values c.values := by
  rw [put, h.model]
  exact SortedMap.forall₂_place Descriptor.Outdoes.refl h c.sorted (SortedMap.get?_eq_some_iff.mp listed)

theorem classify_sublist [Field α] (exp : α → α) (k : α) (strict strict' : Bool) (c : Catalog α)
    (h : p'.Tightens p) : ((classify exp k strict' c p').map Classified.descriptor).Sublist
      ((classify exp k strict c p).map Classified.descriptor) := by
  rw [map_descriptor_classify, map_descriptor_classify]
  exact List.monotone_filter_right _ fun _ => h.allows

end Constraints

section Weights

variable [Field α] [LinearOrder α] {exp : α → α} {k : α} {p p' : Policy α} {d d' : Descriptor α}
  {x x' t t' : α}

theorem softWeight_eq_sum (exp : α → α) (k : α) (strict : Bool) (p : Policy α) (d : Descriptor α) :
    softWeight exp k strict p d =
      ((p.dimensions d).map fun e => dimensionWeight exp k strict e.1 e.2).sum := by
  simp [softWeight, Policy.dimensions, add_assoc]

variable [IsStrictOrderedRing α]

theorem sigmoid_pos (h : Exponential exp) (x t k : α) : 0 < sigmoid exp x t k :=
  one_div_pos.mpr (add_pos one_pos (h.pos _))

theorem sigmoid_le (h : Exponential exp) (hk : 0 < k) (apart : x - t ≤ x' - t') :
    sigmoid exp x t k ≤ sigmoid exp x' t' k := by
  have falls : -k * (x' - t') ≤ -k * (x - t) :=
    mul_le_mul_of_nonpos_left apart (neg_nonpos.mpr hk.le)
  exact one_div_le_one_div_of_le (add_pos one_pos (h.pos _))
    (add_le_add_right (h.strictMono.monotone falls) 1)

theorem dimensionWeight_le (h : Exponential exp) (hk : 0 < k) (strict : Bool) (hx : x ≤ x') (ht : t' ≤ t) :
    dimensionWeight exp k strict x t ≤ dimensionWeight exp k strict x' t' := by
  have grows : sigmoid exp x t k ≤ sigmoid exp x' t' k := sigmoid_le h hk (sub_le_sub hx ht)
  unfold dimensionWeight
  by_cases below : strict = true ∧ x < t
  · rw [if_pos below]
    split
    · exact le_rfl
    · exact (sigmoid_pos h ..).le
  · -- a threshold that was met is met by more, and when it is lower
    have met : ¬(strict = true ∧ x' < t') := fun b => below ⟨b.1, hx.trans_lt (b.2.trans_le ht)⟩
    rwa [if_neg below, if_neg met]

theorem dimensionWeight_strict_le (h : Exponential exp) (x t : α) :
    dimensionWeight exp k true x t ≤ dimensionWeight exp k false x t := by
  unfold dimensionWeight
  by_cases below : x < t <;> simp [below, (sigmoid_pos h x t k).le]

theorem dimensionWeight_strict_eq_iff (h : Exponential exp) (x t : α) :
    dimensionWeight exp k true x t = dimensionWeight exp k false x t ↔ t ≤ x := by
  unfold dimensionWeight
  by_cases below : x < t
  · simp [below, (sigmoid_pos h x t k).ne]
  · simp [below, not_lt.mp below]

theorem softWeight_le (h : Exponential exp) (hk : 0 < k) (strict : Bool) (hp : p'.Eases p)
    (hd : d'.Outdoes d) : softWeight exp k strict p d ≤ softWeight exp k strict p' d' := by
  have dimensions : List.Forall₂ (fun e e' => dimensionWeight exp k strict e.1 e.2 ≤
      dimensionWeight exp k strict e'.1 e'.2) (p.dimensions d) (p'.dimensions d') :=
    .cons (dimensionWeight_le h hk strict hd.latency hp.latency)
      (.cons (dimensionWeight_le h hk strict hd.accuracy hp.accuracy)
        (.cons (dimensionWeight_le h hk strict hd.quality hp.quality) .nil))
  rw [softWeight_eq_sum, softWeight_eq_sum]
  exact List.Forall₂.sum_le_sum (List.forall₂_map_left_iff.mpr (List.forall₂_map_right_iff.mpr dimensions))

theorem softWeight_strict_le (h : Exponential exp) (p : Policy α) (d : Descriptor α) :
    softWeight exp k true p d ≤ softWeight exp k false p d := by
  rw [softWeight_eq_sum, softWeight_eq_sum]
  exact List.sum_le_sum fun e _ => dimensionWeight_strict_le h ..

/-- Nothing is lost in strict mode just where nothing is below its threshold: what one dimension loses no other
one makes up for. -/
theorem softWeight_strict_eq_iff (h : Exponential exp) (p : Policy α) (d : Descriptor α) :
    softWeight exp k true p d = softWeight exp k false p d ↔ p.Met d := by
  rw [Policy.met_iff, softWeight_eq_sum, softWeight_eq_sum]
  constructor
  · intro same e he
    by_contra below
    have less : dimensionWeight exp k true e.1 e.2 < dimensionWeight exp k false e.1 e.2 :=
      (dimensionWeight_strict_le h ..).lt_of_ne fun eq => below ((dimensionWeight_strict_eq_iff h ..).mp eq)
    exact (List.sum_lt_sum _ _ (fun e _ => dimensionWeight_strict_le h ..) ⟨e, he, less⟩).ne same
  · intro met
    exact congrArg List.sum (List.map_congr_left fun e he => (dimensionWeight_strict_eq_iff h ..).mpr (met e he))

end Weights

section Catalogs

variable [Field α] [LinearOrder α] [IsStrictOrderedRing α] {exp : α → α} {k : α} {c c' : Catalog α}
  {p p' : Policy α}

theorem classify_grows (h : Exponential exp) (hk : 0 < k) (strict : Bool)
    (hc : List.Forall₂ Descriptor.Outdoes c'.values c.values) (hp : p'.Eases p) :
    List.Forall₂ (fun m' m => m'.descriptor.Outdoes m.descriptor ∧ m.weight ≤ m'.weight)
      (classify exp k strict c' p') (classify exp k strict c p) := by
  have admitted : List.Forall₂ Descriptor.Outdoes (c'.values.filter p'.allows) (c.values.filter p.allows) :=
    List.rel_filter (fun _ _ hd => hp.allows_iff hd) hc
  refine List.forall₂_map_left_iff.mpr (List.forall₂_map_right_iff.mpr (admitted.imp fun d' d hd => ?_))
  exact ⟨hd, softWeight_le h hk strict hp hd⟩

theorem classify_strict_le (h : Exponential exp) (c : Catalog α) (p : Policy α) :
    List.Forall₂ (fun m m' => m.descriptor = m'.descriptor ∧ m.weight ≤ m'.weight ∧
      (m.weight = m'.weight ↔ p.Met m.descriptor))
      (classify exp k true c p) (classify exp k false c p) := by
  refine List.forall₂_map_left_iff.mpr (List.forall₂_map_right_iff.mpr (List.forall₂_same.mpr fun d _ => ?_))
  exact ⟨rfl, softWeight_strict_le h p d, softWeight_strict_eq_iff h p d⟩

/-- A tighter privacy or cost admits no further model, and the other thresholds and the mode admit and exclude
none. A model weighs no less when its weights are raised or the thresholds lowered, in either mode, and in
strict mode it weighs no more than in the other, and as much just where it meets every threshold. -/
theorem classify_monotone (h : Exponential exp) (hk : 0 < k) (c : Catalog α) (p : Policy α) :
    (∀ p' strict strict', p'.Tightens p →
      ((classify exp k strict' c p').map Classified.descriptor).Sublist
        ((classify exp k strict c p).map Classified.descriptor)) ∧
    (∀ p' strict strict', p'.privacy = p.privacy → p'.cost = p.cost →
      (classify exp k strict' c p').map Classified.descriptor =
        (classify exp k strict c p).map Classified.descriptor) ∧
    (∀ c' p' strict, List.Forall₂ Descriptor.Outdoes c'.values c.values → p'.Eases p →
      List.Forall₂ (fun m' m => m'.descriptor.Outdoes m.descriptor ∧ m.weight ≤ m'.weight)
        (classify exp k strict c' p') (classify exp k strict c p)) ∧
    List.Forall₂ (fun m m' => m.descriptor = m'.descriptor ∧ m.weight ≤ m'.weight ∧
      (m.weight = m'.weight ↔ p.Met m.descriptor))
      (classify exp k true c p) (classify exp k false c p) := by
  refine ⟨fun p' strict strict' tight => classify_sublist exp k strict strict' c tight,
    fun p' strict strict' privacy cost => ?_,
    fun c' p' strict raised eased => classify_grows h hk strict raised eased, classify_strict_le h c p⟩
  have fewer : p'.Tightens p := ⟨privacy ▸ le_rfl, cost.ge⟩
  have more : p.Tightens p' := ⟨privacy ▸ le_rfl, cost.le⟩
  exact (classify_sublist exp k strict strict' c fewer).antisymm
    (classify_sublist exp k strict' strict c more)

/-- A model whose quality is below its threshold weighs less in strict mode than in the other, one that does
well enough weighs the same, and with more quality the first weighs no less than before. -/
theorem low_quality_weighs_less_when_strict :
    let near (quality : ℝ) : Descriptor ℝ := ⟨"near", "home", .onPremises, 0, 1, 1, quality, 1⟩
    let far : Descriptor ℝ := ⟨"far", "abroad", .outsideEu, 0, 1, 1, 1, 1⟩
    let catalog : Catalog ℝ := ⟨[("far", far), ("near", near 0)], List.pairwise_pair.mpr (by decide)⟩
    let p : Policy ℝ := ⟨.outsideEu, 0, 1, 1, 1⟩
    let weigh (strict : Bool) (c : Catalog ℝ) := classify Real.exp (1 / 5) strict c p
    Exponential Real.exp ∧ ∃ w₁ w₂ w₃ w₄, weigh true catalog = [⟨far, w₁⟩, ⟨near 0, w₂⟩] ∧
      weigh false catalog = [⟨far, w₁⟩, ⟨near 0, w₃⟩] ∧ w₂ < w₃ ∧
      weigh true (catalog.put (near 2)) = [⟨far, w₁⟩, ⟨near 2, w₄⟩] ∧ w₂ ≤ w₄ := by
  intro near far catalog p weigh
  have exponential : Exponential Real.exp := ⟨Real.exp_pos, Real.exp_strictMono⟩
  obtain ⟨_, _, grows, strictly⟩ := classify_monotone exponential (by norm_num : (0 : ℝ) < 1 / 5) catalog p
  have weighed (strict : Bool) {c : Catalog ℝ} {quality : ℝ} (values : c.values = [far, near quality]) :
      weigh strict c = [⟨far, softWeight Real.exp (1 / 5) strict p far⟩,
        ⟨near quality, softWeight Real.exp (1 / 5) strict p (near quality)⟩] := by
    simp [weigh, classify, values, Policy.allows, PrivacyTier.satisfies, PrivacyTier.strictness, p, far, near]
  have now : catalog.values = [far, near 0] := rfl
  have later : (catalog.put (near 2)).values = [far, near 2] := by
    have place : SortedMap.place "near" (near 2) catalog.entries = [("far", far), ("near", near 2)] := by
      rw [show catalog.entries = [("far", far), ("near", near 0)] from rfl, SortedMap.place,
        if_neg (by decide), if_pos (by decide), SortedMap.place, if_neg (by decide), if_neg (by decide)]
    exact congrArg (List.map Prod.snd) place
  have raised : List.Forall₂ Descriptor.Outdoes (catalog.put (near 2)).values catalog.values :=
    Catalog.outdone_of_put (d := near 0) rfl ⟨rfl, rfl, rfl, rfl, rfl, le_rfl, le_rfl, by norm_num [near]⟩
  have more := grows (catalog.put (near 2)) p true raised (.refl p)
  change List.Forall₂ _ (weigh true (catalog.put (near 2))) (weigh true catalog) at more
  change List.Forall₂ _ (weigh true catalog) (weigh false catalog) at strictly
  rw [weighed true later, weighed true now] at more
  rw [weighed true now, weighed false now] at strictly
  simp only [List.forall₂_cons, List.forall₂_nil_left_iff, and_true] at more strictly
  have met : p.Met far := ⟨le_rfl, le_rfl, le_rfl⟩
  have unmet : ¬p.Met (near 0) := fun m => absurd m.quality (by norm_num [p, near])
  obtain ⟨⟨_, _, same⟩, _, le, less⟩ := strictly
  refine ⟨exponential, _, _, softWeight Real.exp (1 / 5) false p (near 0), _, weighed true now, ?_, ?_,
    weighed true later, more.2.2⟩
  · rw [weighed false now, same.mpr met]
  · exact le.lt_of_ne fun eq => unmet (less.mp eq)

end Catalogs

end InferenceDispatch
