import InferenceDispatch.Text.Pieces
import Mathlib.Data.List.Infix

namespace InferenceDispatch
namespace Text

variable {sep : Char} {s p : List Char} {ps : List (List Char)}

/-- A text is cut at its first doubled separator, what is left of it at the first one there, and so
on: a piece and one separator hold none. -/
inductive CutAtDoubles (sep : Char) : List Char → List (List Char) → Prop
  | whole {s : List Char} : ¬[sep, sep] <:+: s → CutAtDoubles sep s [s]
  | cut {p rest : List Char} {ps : List (List Char)} : ¬[sep, sep] <:+: p ++ [sep] →
      CutAtDoubles sep rest ps → CutAtDoubles sep (p ++ sep :: sep :: rest) (p :: ps)

theorem double_infix_cons {c : Char} : [sep, sep] <:+: c :: s ↔
    c = sep ∧ s.head? = some sep ∨ [sep, sep] <:+: s := by
  rw [List.infix_cons_iff]
  refine or_congr_left ?_
  cases s with
  | nil => simp
  | cons d r => simp [List.cons_prefix_cons, eq_comm]

theorem double_infix_concat :
    [sep, sep] <:+: s ++ [sep] ↔ s.getLast? = some sep ∨ [sep, sep] <:+: s := by
  rw [List.infix_concat_iff, List.suffix_concat_iff]
  refine or_congr_left ?_
  constructor
  · rintro (h | ⟨t, ht, hs⟩)
    · cases h
    · obtain rfl : t = [sep] := (List.append_inj_left' ht rfl).symm
      obtain ⟨u, rfl⟩ := hs
      simp
  · intro h
    obtain ⟨u, rfl⟩ := List.getLast?_eq_some_iff.mp h
    exact Or.inr ⟨[sep], rfl, List.suffix_append u [sep]⟩

theorem CutAtDoubles.single (h : CutAtDoubles sep s ps) : ∀ q ∈ ps, ¬[sep, sep] <:+: q := by
  induction h with
  | whole h => simpa using h
  | cut h _ ih =>
    refine List.forall_mem_cons.mpr ⟨fun hp => h ?_, ih⟩
    exact double_infix_concat.mpr (Or.inr hp)

theorem piecesAtDouble_whole (h : ¬[sep, sep] <:+: s) : piecesAtDouble sep s = [s] := by
  fun_induction piecesAtDouble sep s with
  | case1 => rfl
  | case2 => rfl
  | case3 c d r hd ih =>
    exact absurd (double_infix_cons.mpr (Or.inl ⟨hd.1, by simp [hd.2]⟩)) h
  | case4 c d r hd ih =>
    rw [ih fun hi => h (double_infix_cons.mpr (Or.inr hi)), consFirst]

theorem piecesAtDouble_cut (h : ¬[sep, sep] <:+: p ++ [sep]) (rest : List Char) :
    piecesAtDouble sep (p ++ sep :: sep :: rest) = p :: piecesAtDouble sep rest := by
  induction p with
  | nil => simp [piecesAtDouble]
  | cons c p ih =>
    rw [List.cons_append, double_infix_cons, not_or] at h
    have ih := ih h.2
    cases p with
    | nil =>
      have hc : c ≠ sep := fun hc => h.1 ⟨hc, rfl⟩
      rw [List.nil_append] at ih
      simp [piecesAtDouble, hc, consFirst]
    | cons d p =>
      have hcd : ¬(c = sep ∧ d = sep) := fun hcd => h.1 ⟨hcd.1, by simp [hcd.2]⟩
      rw [List.cons_append, List.cons_append, piecesAtDouble, if_neg hcd, ← List.cons_append, ih,
        consFirst]

theorem cutAtDoubles_piecesAtDouble (sep : Char) (s : List Char) :
    CutAtDoubles sep s (piecesAtDouble sep s) := by
  fun_induction piecesAtDouble sep s with
  | case1 => exact .whole (by simp)
  | case2 c => exact .whole (by simp [double_infix_cons])
  | case3 c d r hd ih =>
    obtain ⟨rfl, rfl⟩ := hd
    exact .cut (p := []) (by simp [double_infix_cons]) ih
  | case4 c d r hd ih =>
    generalize hs : d :: r = s at ih
    generalize piecesAtDouble sep s = ps at ih
    have apart : ¬(c = sep ∧ s.head? = some sep) := by simpa [← hs] using hd
    cases ih with
    | whole h => exact .whole (by rw [double_infix_cons, not_or]; exact ⟨apart, h⟩)
    | @cut p rest ps h cuts =>
      refine .cut (p := c :: p) ?_ cuts
      rw [List.cons_append, double_infix_cons, not_or]
      refine ⟨?_, h⟩
      cases p <;> simpa using apart

theorem cutAtDoubles_iff : CutAtDoubles sep s ps ↔ piecesAtDouble sep s = ps := by
  constructor
  · intro h
    induction h with
    | whole h => exact piecesAtDouble_whole h
    | cut h _ ih => rw [piecesAtDouble_cut h, ih]
  · rintro rfl
    exact cutAtDoubles_piecesAtDouble sep s

-- of three separators the first two are the doubled one
example : piecesAtDouble '_' "a___b".toList = ["a".toList, "_b".toList] := by decide

theorem cutAtDoubles_joined {last : List Char} {ss : List (List Char)}
    (h : ∀ q ∈ p :: ss, ¬[sep, sep] <:+: q ++ [sep]) (hlast : ¬[sep, sep] <:+: last) :
    CutAtDoubles sep (p ++ (ss ++ [last]).flatMap fun s => sep :: sep :: s)
      (p :: (ss ++ [last])) := by
  induction ss generalizing p with
  | nil =>
    rw [List.nil_append, List.flatMap_singleton]
    exact .cut (h p List.mem_cons_self) (.whole hlast)
  | cons q ss ih =>
    have rest := ih fun x hx => h x (List.mem_cons_of_mem p hx)
    rw [List.cons_append, List.flatMap_cons]
    exact .cut (h p List.mem_cons_self) rest

theorem pieces_of_not_mem (h : sep ∉ s) : pieces sep s = [s] := by
  induction s with
  | nil => rfl
  | cons c r ih =>
    obtain ⟨hc, hr⟩ := not_or.mp (mt List.mem_cons.mpr h)
    rw [pieces, if_neg (Ne.symm hc), ih hr, consFirst]

theorem pieces_append (s rest : List Char) :
    pieces sep (s ++ sep :: rest) = pieces sep s ++ pieces sep rest := by
  induction s with
  | nil => simp [pieces]
  | cons c s ih =>
    obtain ⟨q, qs, hs⟩ := List.exists_cons_of_ne_nil (pieces_ne_nil sep s)
    rw [hs] at ih
    rw [List.cons_append, pieces, pieces, ih, hs]
    split <;> rfl

theorem pieces_joined (s : List Char) (ss : List (List Char)) :
    pieces sep (s ++ ss.flatMap (sep :: ·)) = (s :: ss).flatMap (pieces sep) := by
  induction ss generalizing s with
  | nil => simp
  | cons t ss ih =>
    rw [List.flatMap_cons, List.cons_append, pieces_append, ih, ← List.flatMap_cons]

/-- The pieces of a text hold no separator, and the text is the first of them and each other one
behind a separator. -/
theorem pieces_eq_iff : pieces sep s = p :: ps ↔
    s = p ++ ps.flatMap (sep :: ·) ∧ ∀ q ∈ p :: ps, sep ∉ q := by
  constructor
  · intro h
    induction s generalizing p ps with
    | nil =>
      obtain ⟨rfl, rfl⟩ := List.cons.inj h
      simp
    | cons c r ih =>
      obtain ⟨q, qs, hr⟩ := List.exists_cons_of_ne_nil (pieces_ne_nil sep r)
      obtain ⟨rfl, hq⟩ := ih hr
      rw [pieces, hr] at h
      split at h
      next hc =>
        obtain ⟨rfl, rfl⟩ := List.cons.inj h
        exact ⟨by simp [hc], by simpa using hq⟩
      next hc =>
        obtain ⟨rfl, rfl⟩ := List.cons.inj h
        refine ⟨rfl, ?_⟩
        simpa [Ne.symm hc] using hq
  · rintro ⟨rfl, h⟩
    rw [pieces_joined]
    generalize p :: ps = qs at h ⊢
    induction qs with
    | nil => rfl
    | cons q qs ih =>
      obtain ⟨hq, hqs⟩ := List.forall_mem_cons.mp h
      rw [List.flatMap_cons, pieces_of_not_mem hq, ih hqs, List.singleton_append]

theorem not_double_of_pieces (h : [] ∉ pieces sep s) : ¬[sep, sep] <:+: s := by
  rintro ⟨a, b, rfl⟩
  have doubled : a ++ [sep, sep] ++ b = a ++ sep :: ([] ++ sep :: b) := by simp
  rw [doubled, pieces_append, pieces_append] at h
  simp [pieces] at h

end Text
end InferenceDispatch
