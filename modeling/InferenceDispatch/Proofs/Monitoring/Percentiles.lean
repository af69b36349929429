import InferenceDispatch.Monitoring.Histogram
import Mathlib.Algebra.Order.BigOperators.Group.List
import Mathlib.Algebra.Order.Floor.Semiring
import Mathlib.Data.List.Induction
import Mathlib.Data.List.Sort
import Mathlib.Data.Rat.Floor
import Mathlib.Order.Bounds.Basic

namespace InferenceDispatch

theorem sum_take_modify {counts : List Nat} {k : Nat} (hk : k < counts.length) (m : Nat) :
    ((counts.modify k (· + 1)).take m).sum = (counts.take m).sum + if k < m then 1 else 0 := by
  induction counts generalizing k m with
  | nil => simp at hk
  | cons c counts ih =>
    cases m with
    | zero => simp
    | succ m =>
      cases k with
      | zero => simp; omega
      | succ k =>
        have hk' : k < counts.length := by simpa using hk
        simp only [List.modify_succ_cons, List.take_succ_cons, List.sum_cons, ih hk' m, Nat.add_lt_add_iff_right]
        omega

namespace Histogram

variable {α : Type} [Measure α] {bounds values : List α} {h : Histogram α}

def ofValues (bounds values : List α) : Histogram α := values.foldl record (ofBounds bounds)

/-- A histogram has counted the values into the buckets they go into. -/
structure Tallies (h : Histogram α) (bounds values : List α) : Prop where
  same_bounds : h.bounds = bounds
  length : h.counts.length = bounds.length
  total : h.total = values.length
  running : ∀ m, (h.counts.take m).sum = values.countP fun x => bucketOf bounds x < m

theorem bucketOf_lt (some_bound : bounds ≠ []) (x : α) : bucketOf bounds x < bounds.length := by
  have positive : 0 < bounds.length := List.length_pos_iff.mpr some_bound
  dsimp only [bucketOf]
  cases found : bounds.findIdx? _ with
  | none => exact Nat.sub_lt positive one_pos
  | some k => exact (List.findIdx?_eq_some_iff_findIdx_eq.mp found).1

theorem tallies_ofBounds : (ofBounds bounds).Tallies bounds [] := by
  refine ⟨rfl, by simp [ofBounds], rfl, fun m => ?_⟩
  have zeros : ∀ c ∈ (ofBounds bounds).counts.take m, c = 0 := by
    intro c hc
    obtain ⟨b, _, rfl⟩ := List.mem_map.mp (List.mem_of_mem_take hc)
    rfl
  exact List.sum_eq_zero zeros

theorem Tallies.record (t : h.Tallies bounds values) (some_bound : bounds ≠ []) (x : α) :
    (h.record x).Tallies bounds (values ++ [x]) := by
  have recorded : h.record x = { h with
      counts := h.counts.modify (bucketOf bounds x) (· + 1)
      total := h.total + 1
      sum := h.sum + .ofNat (Measure.whole x)
      max := Nat.max h.max (Measure.whole x) } := by
    rw [Histogram.record, t.same_bounds, if_neg (by simpa using some_bound)]
  have inside : bucketOf bounds x < h.counts.length := by
    rw [t.length]
    exact bucketOf_lt some_bound x
  rw [recorded]
  refine ⟨t.same_bounds, ?_, ?_, fun m => ?_⟩
  · simp [t.length]
  · simp [t.total]
  · rw [sum_take_modify inside, t.running, List.countP_append]
    simp [List.countP_cons]

theorem tallies_ofValues (some_bound : bounds ≠ []) (values : List α) :
    (ofValues bounds values).Tallies bounds values := by
  induction values using List.reverseRecOn with
  | nil => exact tallies_ofBounds
  | append_singleton values x ih =>
    rw [ofValues, List.foldl_append]
    exact ih.record some_bound x

theorem Tallies.sum_counts (t : h.Tallies bounds values) (some_bound : bounds ≠ []) :
    h.counts.sum = values.length := by
  have whole := t.running bounds.length
  rw [← t.length, List.take_length, t.length] at whole
  rw [whole, List.countP_eq_length]
  exact fun x _ => decide_eq_true (bucketOf_lt some_bound x)

end Histogram

namespace Snapshot

theorem reaches?_eq_find? {fits : Nat → Bool} {target soFar : Nat} {counts : List Nat}
    (held : ∀ n ≤ soFar + counts.sum, fits n = true) :
    reaches? fits target soFar counts =
      some ((List.range counts.length).find? fun i => target ≤ soFar + (counts.take (i + 1)).sum) := by
  induction counts generalizing soFar with
  | nil => rfl
  | cons c counts ih =>
    have fit : fits (soFar + c) = true := held _ (by simp only [List.sum_cons]; omega)
    have later : reaches? fits target (soFar + c) counts = _ :=
      ih fun n hn => held n (by simp only [List.sum_cons]; omega)
    rw [reaches?, fit, later, List.length_cons, List.range_succ_eq_map, List.find?_cons]
    by_cases first : target ≤ soFar + c
    · simp [first]
    · simp [first, List.find?_map, Nat.add_assoc]
      rfl

variable {α : Type} [Measure α] {s : Snapshot α}

theorem percentile?_of_held (held : ∀ n ≤ s.counts.sum, Measure.fits α n = true) (p : α) :
    s.percentile? p = if s.total = 0 then some Measure.zero else
      match (List.range s.counts.length).find? fun i => Measure.share s.total p ≤ (s.counts.take (i + 1)).sum with
      | some i => s.bounds[i]?
      | none => some (s.bounds.getLast?.getD Measure.zero) := by
  have fit : ∀ n ≤ 0 + s.counts.sum, Measure.fits α n = true := by rwa [Nat.zero_add]
  rw [percentile?, reaches?_eq_find? fit]
  simp only [Nat.zero_add]
  cases (List.range s.counts.length).find? _ <;> rfl

/-- A percentile is the bound of the first bucket at which the running count reaches the share, or of the last
bucket. -/
theorem exists_position (total : s.total ≠ 0) (length : s.counts.length = s.bounds.length) (some_bound : s.bounds ≠ [])
    (held : ∀ n ≤ s.counts.sum, Measure.fits α n = true) (p : α) :
    ∃ i, ∃ hi : i < s.bounds.length, s.percentile? p = some s.bounds[i] ∧
      (∀ j < i, (s.counts.take (j + 1)).sum < Measure.share s.total p) ∧
      (Measure.share s.total p ≤ (s.counts.take (i + 1)).sum ∨ i + 1 = s.bounds.length) := by
  have positive : 0 < s.bounds.length := List.length_pos_iff.mpr some_bound
  rw [percentile?_of_held held, if_neg total, length]
  cases found : (List.range s.bounds.length).find? _ with
  | some i =>
    obtain ⟨reached, hi, before⟩ := List.find?_range_eq_some.mp found
    have hi : i < s.bounds.length := List.mem_range.mp hi
    refine ⟨i, hi, List.getElem?_eq_getElem hi, fun j hj => ?_, Or.inl (of_decide_eq_true reached)⟩
    simpa using before j hj
  | none =>
    have unreached := List.find?_range_eq_none.mp found
    have hi : s.bounds.length - 1 < s.bounds.length := by omega
    refine ⟨s.bounds.length - 1, hi, ?_, fun j hj => ?_, Or.inr (by omega)⟩
    · simp only [List.getLast?_eq_getElem?, List.getElem?_eq_getElem hi, Option.getD_some]
    · simpa using unreached j (by omega)

end Snapshot

@[reducible] def Measure.exact : Measure ℚ where
  toLE := inferInstance
  decLE := inferInstance
  zero := 0
  whole x := ⌊x⌋₊
  share n p := ⌈n * p⌉₊
  ratio a b := a / b
  fits _ := true

/-- Exact numbers as measures, with those counts that can be held. -/
@[reducible] def Measure.limited (fits : Nat → Bool) : Measure ℚ := { Measure.exact with fits }

/-- What a histogram of exact numbers shows. -/
def Snapshot.ofExact (bounds values : List ℚ) : Snapshot ℚ :=
  letI := Measure.exact
  (Histogram.ofValues bounds values).snapshot

def Snapshot.quantile? (s : Snapshot ℚ) (p : ℚ) : Option ℚ :=
  letI := Measure.exact
  s.percentile? p

theorem Snapshot.percentile?_limited {fits : Nat → Bool} {s : Snapshot ℚ} (held : ∀ n ≤ s.counts.sum, fits n = true)
    (p : ℚ) : @Snapshot.percentile? ℚ (.limited fits) s p = s.quantile? p := by
  rw [@percentile?_of_held ℚ (.limited fits) s held, quantile?, @percentile?_of_held ℚ .exact s fun _ _ => rfl]
  rfl

/-- At least a share of `p` of the values, rounded up to whole values, does not exceed `b`. -/
def Covers (values : List ℚ) (p b : ℚ) : Prop := ⌈p * values.length⌉₊ ≤ values.countP fun v => v ≤ b

/-- The bound that answers for the `p` quantile: the least one that covers this share of the values, and the last
one if none does. -/
inductive AnswersFor (bounds values : List ℚ) (p b : ℚ) : Prop where
  | least (is_least : IsLeast {c | c ∈ bounds ∧ Covers values p c} b)
  | last (uncovered : ∀ c ∈ bounds, ¬Covers values p c) (is_last : bounds.getLast? = some b)

section Exact

variable {bounds values : List ℚ} {p q a b : ℚ}

theorem bucketOf_lt_iff (ascending : bounds.SortedLT) {i : Nat} (hi : i + 1 < bounds.length) (x : ℚ) :
    @Histogram.bucketOf ℚ .exact bounds x < i + 1 ↔ x ≤ bounds[i] := by
  dsimp only [Histogram.bucketOf]
  cases found : bounds.findIdx? _ with
  | none =>
    have beyond : ∀ b ∈ bounds, ¬x ≤ b := by simpa using List.findIdx?_eq_none_iff.mp found
    have above : ¬x ≤ bounds[i] := beyond _ (List.getElem_mem _)
    simp only [Option.getD_none, above, iff_false]
    omega
  | some k =>
    obtain ⟨hk, fitting, before⟩ := List.findIdx?_eq_some_iff_getElem.mp found
    have within : x ≤ bounds[k] := by simpa using fitting
    simp only [Option.getD_some, Nat.lt_succ_iff]
    constructor
    · intro le
      exact within.trans (ascending.getElem_le_getElem_iff.mpr le)
    · intro le
      by_contra late
      exact absurd le (by simpa using before i (by omega))

theorem Covers.of_less (h : Covers values q b) (le : p ≤ q) : Covers values p b := by
  have less : p * values.length ≤ q * values.length := mul_le_mul_of_nonneg_right le (Nat.cast_nonneg _)
  exact (Nat.ceil_mono less).trans h

theorem covers_of_largest (le_one : p ≤ 1) (largest : ∀ v ∈ values, v ≤ b) : Covers values p b := by
  have all : values.countP (fun v => v ≤ b) = values.length :=
    List.countP_eq_length.mpr fun v hv => decide_eq_true (largest v hv)
  have share : p * values.length ≤ values.length := mul_le_of_le_one_left (Nat.cast_nonneg _) le_one
  rw [Covers, all]
  exact Nat.ceil_le.mpr share

theorem AnswersFor.mem (h : AnswersFor bounds values p b) : b ∈ bounds := by
  cases h with
  | least is_least => exact is_least.1.1
  | last _ is_last => exact List.mem_of_getLast? is_last

theorem le_of_getLast? (ascending : bounds.SortedLT) (is_last : bounds.getLast? = some b)
    (ha : a ∈ bounds) : a ≤ b := by
  obtain ⟨i, hi, rfl⟩ := List.mem_iff_getElem.mp ha
  rw [List.getLast?_eq_getElem?] at is_last
  obtain ⟨hl, rfl⟩ := List.getElem?_eq_some_iff.mp is_last
  exact ascending.getElem_le_getElem_iff.mpr (by omega)

theorem answersFor_getElem (ascending : bounds.SortedLT) {i : Nat} (hi : i < bounds.length)
    (before : ∀ j (hj : j < i), ¬Covers values p bounds[j])
    (here : Covers values p bounds[i] ∨ i + 1 = bounds.length) : AnswersFor bounds values p bounds[i] := by
  by_cases covered : Covers values p bounds[i]
  · refine .least ⟨⟨List.getElem_mem hi, covered⟩, ?_⟩
    rintro c ⟨hc, covers⟩
    obtain ⟨j, hj, rfl⟩ := List.mem_iff_getElem.mp hc
    have not_before : ¬j < i := fun lt => before j lt covers
    exact ascending.getElem_le_getElem_iff.mpr (Nat.not_lt.mp not_before)
  · have at_end : i + 1 = bounds.length := here.resolve_left covered
    refine .last ?_ ?_
    · intro c hc covers
      obtain ⟨j, hj, rfl⟩ := List.mem_iff_getElem.mp hc
      rcases Nat.lt_or_eq_of_le (show j ≤ i by omega) with lt | rfl
      · exact before j lt covers
      · exact covered covers
    · rw [List.getLast?_eq_getElem?, ← at_end]
      exact List.getElem?_eq_getElem hi

theorem AnswersFor.mono (ascending : bounds.SortedLT) (le : p ≤ q) (ha : AnswersFor bounds values p a)
    (hb : AnswersFor bounds values q b) : a ≤ b := by
  cases hb with
  | least least_b =>
    have covers : Covers values p b := least_b.1.2.of_less le
    cases ha with
    | least least_a => exact least_a.2 ⟨least_b.1.1, covers⟩
    | last uncovered _ => exact absurd covers (uncovered b least_b.1.1)
  | last _ is_last => exact le_of_getLast? ascending is_last ha.mem

theorem AnswersFor.covers (h : AnswersFor bounds values p b) (le_one : p ≤ 1)
    (within : ∃ c ∈ bounds, ∀ v ∈ values, v ≤ c) : Covers values p b := by
  cases h with
  | least is_least => exact is_least.1.2
  | last uncovered _ =>
    obtain ⟨c, hc, largest⟩ := within
    exact absurd (covers_of_largest le_one largest) (uncovered c hc)

/-- In front of the last bucket, the running count reaches a share just when the bound covers it. -/
theorem share_le_running_iff (ascending : bounds.SortedLT) {i : Nat} (hi : i + 1 < bounds.length) {h : Histogram ℚ}
    (t : @Histogram.Tallies ℚ .exact h bounds values) :
    Measure.exact.share h.total p ≤ (h.counts.take (i + 1)).sum ↔ Covers values p bounds[i] := by
  let : Measure ℚ := .exact
  have same : values.countP (fun x => Histogram.bucketOf bounds x < i + 1) =
      values.countP fun x => x ≤ bounds[i] :=
    List.countP_congr fun x _ => by simpa using bucketOf_lt_iff ascending hi x
  have share : Measure.share values.length p = ⌈p * values.length⌉₊ := congrArg Nat.ceil (mul_comm _ p)
  rw [t.total, t.running, same, Covers, share]

theorem answersFor_quantile (some_bound : bounds ≠ []) (ascending : bounds.SortedLT) (some_value : values ≠ [])
    (p : ℚ) : ∃ b, (Snapshot.ofExact bounds values).quantile? p = some b ∧ AnswersFor bounds values p b := by
  let : Measure ℚ := .exact
  have t := Histogram.tallies_ofValues some_bound values
  unfold Snapshot.ofExact
  generalize Histogram.ofValues bounds values = h at t
  obtain rfl := t.same_bounds
  have total : h.total ≠ 0 := by
    rw [t.total]
    exact (List.length_pos_iff.mpr some_value).ne'
  obtain ⟨i, (hi : i < h.bounds.length), percentile, before, here⟩ :=
    Snapshot.exists_position (s := h.snapshot) total t.length some_bound (fun _ _ => rfl) p
  refine ⟨h.bounds[i], percentile, answersFor_getElem ascending hi (fun j hj => ?_) ?_⟩
  · rw [← share_le_running_iff ascending (by omega) t]
    exact Nat.not_le.mpr (before j hj)
  · -- the running count of the last bucket includes the values beyond its bound
    by_cases last : i + 1 = h.bounds.length
    · exact Or.inr last
    · exact Or.inl ((share_le_running_iff ascending (by omega) t).mp (here.resolve_right last))

/-- The histogram of some values counts every one of them. For any share of the values, its percentile is the least
bound that covers the share, and the last bound if none does; so the percentile of a larger share is no smaller. If
no value lies beyond the last bound, every percentile covers its share. Where counts can be held up to the number of
the values only, the percentiles are the same. -/
theorem percentile_bounds_quantile (some_bound : bounds ≠ []) (ascending : bounds.SortedLT)
    (some_value : values ≠ []) :
    let s := Snapshot.ofExact bounds values
    s.counts.sum = values.length ∧ s.total = values.length ∧
    (∀ p, ∃ b, s.quantile? p = some b ∧ AnswersFor bounds values p b) ∧
    (∀ p q a b, p ≤ q → s.quantile? p = some a → s.quantile? q = some b → a ≤ b) ∧
    (∀ p b, p ≤ 1 → (∃ c, bounds.getLast? = some c ∧ ∀ v ∈ values, v ≤ c) → s.quantile? p = some b →
      Covers values p b) ∧
    ∀ fits : Nat → Bool, (∀ n ≤ values.length, fits n = true) →
      ∀ p, @Snapshot.percentile? ℚ (.limited fits) s p = s.quantile? p := by
  intro s
  let : Measure ℚ := .exact
  have t := Histogram.tallies_ofValues some_bound values
  have counted : s.counts.sum = values.length := t.sum_counts some_bound
  have answers : ∀ p, ∃ b, s.quantile? p = some b ∧ AnswersFor bounds values p b :=
    answersFor_quantile some_bound ascending some_value
  have answer {p b : ℚ} (hb : s.quantile? p = some b) : AnswersFor bounds values p b := by
    obtain ⟨c, hc, answersFor⟩ := answers p
    exact Option.some.inj (hb.symm.trans hc) ▸ answersFor
  refine ⟨counted, t.total, answers, ?_, ?_, ?_⟩
  · intro p q a b le ha hb
    exact (answer ha).mono ascending le (answer hb)
  · rintro p b le_one ⟨c, is_last, largest⟩ hb
    exact (answer hb).covers le_one ⟨c, List.mem_of_getLast? is_last, largest⟩
  · intro fits held p
    exact Snapshot.percentile?_limited (counted ▸ held) p

/-- The first bucket is empty and one value lies on the bound of the second, which answers for the median. -/
theorem median_on_bound :
    let bounds : List ℚ := [5, 10, 100]
    let values : List ℚ := [10, 7, 50, 100]
    let s := Snapshot.ofExact bounds values
    let fits (n : Nat) : Bool := n < Whole.wordBound
    bounds ≠ [] ∧ bounds.SortedLT ∧ values ≠ [] ∧ s.counts = [0, 2, 2] ∧
      s.quantile? (1 / 2) = some 10 ∧ AnswersFor bounds values (1 / 2) 10 ∧
      s.quantile? 1 = some 100 ∧ (10 : ℚ) ≤ 100 ∧ Covers values 1 100 ∧
      @Snapshot.percentile? ℚ (.limited fits) s (1 / 2) = some 10 := by
  intro bounds values s fits
  have some_bound : bounds ≠ [] := by decide
  have ascending : bounds.SortedLT := by decide +kernel
  have some_value : values ≠ [] := by decide
  obtain ⟨_, _, answers, mono, covers, words⟩ := percentile_bounds_quantile some_bound ascending some_value
  have median : s.quantile? (1 / 2) = some 10 := by decide +kernel
  have largest : s.quantile? 1 = some 100 := by decide +kernel
  have held : ∀ n ≤ values.length, fits n = true := by decide +kernel
  obtain ⟨b, hb, answersFor⟩ := answers (1 / 2)
  obtain rfl : (10 : ℚ) = b := Option.some.inj (median.symm.trans hb)
  refine ⟨some_bound, ascending, some_value, by decide +kernel, median, answersFor, largest,
    mono _ _ _ _ (by norm_num) median largest, covers 1 100 le_rfl ⟨100, rfl, ?_⟩ largest,
    (words fits held _).trans median⟩
  decide +kernel

end Exact

end InferenceDispatch
