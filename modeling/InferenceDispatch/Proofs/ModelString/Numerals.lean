import InferenceDispatch.Number.Decimal
import InferenceDispatch.Text.Blank
import Mathlib.Data.List.TakeWhile

namespace InferenceDispatch

/-- The characters that a numeral of a finite double may hold. -/
def Numeral (c : Char) : Prop := Whole.isDigit c ∨ c ∈ ['+', '-', '.', 'e', 'E']

theorem Numeral.plain {c : Char} (h : Numeral c) : c ≠ '_' ∧ c ≠ '=' ∧ Text.isBlank c = false := by
  rcases h with h | h
  · have range : 48 ≤ c.toNat ∧ c.toNat ≤ 57 := by
      simp only [Whole.isDigit, Bool.and_eq_true, decide_eq_true_eq, Char.le_def] at h
      exact h
    refine ⟨?_, ?_, ?_⟩
    · rintro rfl
      simp at range
    · rintro rfl
      simp at range
    · simp only [Text.isBlank, Text.blankRanges, List.any_eq_false, List.mem_cons, List.not_mem_nil]
      simp
      omega
  · simp only [List.mem_cons, List.not_mem_nil, or_false] at h
    rcases h with rfl | rfl | rfl | rfl | rfl <;> decide

theorem numeral_readDigits {s : List Char} {n : Nat} (h : Whole.readDigits? s = some n) :
    ∀ c ∈ s, Numeral c := by
  unfold Whole.readDigits? at h
  split at h
  next digits =>
    intro c hc
    simp only [Bool.and_eq_true, List.all_eq_true] at digits
    exact Or.inl (digits.2 c hc)
  next => cases h

theorem numeral_readSigned {s : List Char} {n : Int} (h : Whole.readSigned? s = some n) :
    ∀ c ∈ s, Numeral c := by
  have sign : Numeral '-' ∧ Numeral '+' := ⟨Or.inr (by simp), Or.inr (by simp)⟩
  unfold Whole.readSigned? at h
  split at h
  next r =>
    obtain ⟨_, hm, _⟩ := Option.map_eq_some_iff.mp h
    obtain ⟨m, hm, _⟩ := Option.bind_eq_some_iff.mp hm
    exact List.forall_mem_cons.mpr ⟨sign.1, numeral_readDigits hm⟩
  next r =>
    obtain ⟨m, hm, _⟩ := Option.map_eq_some_iff.mp h
    exact List.forall_mem_cons.mpr ⟨sign.2, numeral_readDigits hm⟩
  next =>
    obtain ⟨m, hm, _⟩ := Option.map_eq_some_iff.mp h
    exact numeral_readDigits hm

theorem numeral_readExponent {s : List Char} {e : Int} (h : Decimal.readExponent? s = some e) :
    ∀ c ∈ s, Numeral c := by
  unfold Decimal.readExponent? at h
  split at h
  next => simp
  next c r =>
    split at h
    next hc =>
      refine List.forall_mem_cons.mpr ⟨Or.inr ?_, numeral_readSigned h⟩
      rcases hc with rfl | rfl <;> simp
    next => cases h

theorem numeral_takeWhile (s : List Char) : ∀ c ∈ s.takeWhile Whole.isDigit, Numeral c :=
  fun _ hc => Or.inl (List.mem_takeWhile_imp hc)

theorem numeral_readUnsigned {negative : Bool} {s : List Char} {d : Decimal}
    (h : Decimal.readUnsigned? negative s = some d) : s ≠ [] ∧ ∀ c ∈ s, Numeral c := by
  have point : Numeral '.' := Or.inr (by simp)
  rw [← List.takeWhile_append_dropWhile (p := Whole.isDigit) (l := s), List.forall_mem_append]
  simp only [Decimal.readUnsigned?] at h
  split at h
  next r hr =>
    obtain ⟨_, h⟩ := Option.ite_none_left_eq_some.mp h
    obtain ⟨e, he, _⟩ := Option.map_eq_some_iff.mp h
    have rest : ∀ c ∈ r, Numeral c := by
      rw [← List.takeWhile_append_dropWhile (p := Whole.isDigit) (l := r), List.forall_mem_append]
      exact ⟨numeral_takeWhile r, numeral_readExponent he⟩
    rw [hr]
    exact ⟨by simp, numeral_takeWhile s, List.forall_mem_cons.mpr ⟨point, rest⟩⟩
  next =>
    obtain ⟨nonempty, h⟩ := Option.ite_none_left_eq_some.mp h
    obtain ⟨e, he, _⟩ := Option.map_eq_some_iff.mp h
    refine ⟨?_, numeral_takeWhile s, numeral_readExponent he⟩
    intro empty
    obtain ⟨whole, _⟩ := List.append_eq_nil_iff.mp empty
    simp [whole] at nonempty

theorem unsigned_of_finite {negative : Bool} {body : List Char} {names names' : Prop}
    [Decidable names] [Decidable names'] {x : Double} (h : (if names then some (.infinity negative)
      else if names' then some (.undefined negative)
      else (Decimal.readUnsigned? negative body).map Decimal.toDouble) = some x)
    (finite : x.isFinite = true) : ∃ d, Decimal.readUnsigned? negative body = some d := by
  have infinite : (Double.infinity negative).isFinite = false := by cases negative <;> decide
  have undefined : (Double.undefined negative).isFinite = false := by cases negative <;> decide
  split at h
  next =>
    obtain rfl := Option.some.inj h
    rw [infinite] at finite
    cases finite
  next =>
    split at h
    next =>
      obtain rfl := Option.some.inj h
      rw [undefined] at finite
      cases finite
    next =>
      obtain ⟨d, hd, _⟩ := Option.map_eq_some_iff.mp h
      exact ⟨d, hd⟩

theorem numeral_readDouble {s : List Char} {x : Double} (h : readDouble? s = some x)
    (finite : x.isFinite = true) : s ≠ [] ∧ ∀ c ∈ s, Numeral c := by
  have sign : Numeral '-' ∧ Numeral '+' := ⟨Or.inr (by simp), Or.inr (by simp)⟩
  simp only [readDouble?] at h
  split at h
  all_goals obtain ⟨d, hd⟩ := unsigned_of_finite h finite
  all_goals obtain ⟨nonempty, body⟩ := numeral_readUnsigned hd
  · exact ⟨List.cons_ne_nil _ _, List.forall_mem_cons.mpr ⟨sign.1, body⟩⟩
  · exact ⟨List.cons_ne_nil _ _, List.forall_mem_cons.mpr ⟨sign.2, body⟩⟩
  · exact ⟨nonempty, body⟩

end InferenceDispatch
