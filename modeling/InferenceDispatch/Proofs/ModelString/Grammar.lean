import InferenceDispatch.Proofs.ModelString.Given
import InferenceDispatch.Proofs.ModelString.Separators

namespace InferenceDispatch

theorem PrivacyTier.read?_name (t : PrivacyTier) : read? t.name = some t := by
  cases t <;> decide +kernel

namespace ModelString

inductive SpellsPair : List Char → Pair → Prop
  | pair {key value : List Char} : key ≠ [] → value ≠ [] → '=' ∉ key → '=' ∉ value →
      SpellsPair (key ++ '=' :: value) (key, value)

structure Continues (f : List Char) : Prop where
  nonempty : f ≠ []
  noEquals : '=' ∉ f

instance (f : List Char) : Decidable (Continues f) :=
  decidable_of_iff (f ≠ [] ∧ '=' ∉ f) ⟨fun h => ⟨h.1, h.2⟩, fun h => ⟨h.nonempty, h.noEquals⟩⟩

/-- The fragments of a policy body spell its pairs: a fragment that spells a pair, and behind it
those that continue its value. -/
inductive SpellsPairs : List (List Char) → List Pair → Prop
  | nil : SpellsPairs [] []
  | pair {f key value : List Char} {more rest : List (List Char)} {ps : List Pair} :
      SpellsPair f (key, value) → (∀ g ∈ more, Continues g) → SpellsPairs rest ps →
      SpellsPairs (f :: (more ++ rest)) ((key, value ++ more.flatMap ('_' :: ·)) :: ps)

/-- What a segment behind the version may be, and the pairs it spells, each with whether it belongs
to the policy: a policy body, whose pairs all do, or one bare pair, which does by its key. -/
inductive SpellsSegment : List Char → List (Bool × Pair) → Prop
  | policy {f : List Char} {fs : List (List Char)} {ps : List Pair} : (∀ g ∈ f :: fs, '_' ∉ g) →
      SpellsPairs (f :: fs) ps →
      SpellsSegment ("policy_".toList ++ (f ++ fs.flatMap ('_' :: ·))) (ps.map fun p => (true, p))
  | bare {s : List Char} {p : Pair} : ¬"policy_".toList <+: s → SpellsPair s p →
      SpellsSegment s [(decide (String.ofList p.1 ∈ policyKeys), p)]

/-- A string, with its blanks trimmed, is the stem, a version and segments, apart by doubled
underscores. -/
inductive Spells : String → List Char → List (Bool × Pair) → Prop
  | string {s : String} {rest version : List Char} {segments : List (List Char)}
      {items : List (List (Bool × Pair))} :
      Text.trimChars s.toList = stem.toList ++ rest →
      Text.CutAtDoubles '_' rest (version :: segments) → version ≠ [] →
      List.Forall₂ SpellsSegment segments items → Spells s version items.flatten

/-- The values that a policy key may have, with what is kept for each. -/
inductive Accepts : (key value kept : String) → Prop
  | default {v : String} : v = "true" ∨ v = "false" → Accepts "default" v v
  | privacy {v : String} {t : PrivacyTier} : PrivacyTier.read? v = some t →
      Accepts "privacy" v t.name
  | threshold {key v : String} {x : Double} : key ∈ thresholdKeys → readDouble? v.toList = some x →
      x.isFinite → Accepts key v v

theorem readPair_eq_ok_iff {s : List Char} {p : Pair} : readPair s = .ok p ↔ SpellsPair s p := by
  obtain ⟨key, value⟩ := p
  constructor
  · intro h
    obtain ⟨rfl, hkey⟩ := Text.cutAt?_eq_some_iff.mp (readPair_eq_ok h)
    have cut : Text.cutAt? '=' (key ++ '=' :: value) = some (key, value) :=
      Text.cutAt?_eq_some_iff.mpr ⟨rfl, hkey⟩
    rw [readPair, cut] at h
    simp only at h
    split at h
    next both => exact .pair both.1 both.2.1 hkey both.2.2
    next => cases h
  · rintro ⟨hkey, hvalue, hk, hv⟩
    rw [readPair, Text.cutAt?_eq_some_iff.mpr ⟨rfl, hk⟩]
    exact if_pos ⟨hkey, hvalue, hv⟩

theorem SpellsPair.equals_mem {s : List Char} {p : Pair} (h : SpellsPair s p) : '=' ∈ s := by
  cases h
  simp

def SpellsRest (p : Pair) (fs : List (List Char)) (ps : List Pair) : Prop :=
  ∃ more rest qs, fs = more ++ rest ∧ (∀ g ∈ more, Continues g) ∧ SpellsPairs rest qs ∧
    ps = (p.1, p.2 ++ more.flatMap ('_' :: ·)) :: qs

section Rest

variable {p : Pair} {f : List Char} {fs : List (List Char)} {ps : List Pair}

theorem spellsPairs_cons_iff :
    SpellsPairs (f :: fs) ps ↔ ∃ p, SpellsPair f p ∧ SpellsRest p fs ps := by
  constructor
  · intro h
    cases h with
    | pair hf hmore hrest => exact ⟨_, hf, _, _, _, rfl, hmore, hrest, rfl⟩
  · rintro ⟨p, hf, more, rest, qs, rfl, hmore, hrest, rfl⟩
    exact .pair hf hmore hrest

theorem spellsRest_nil_iff : SpellsRest p [] ps ↔ ps = [p] := by
  constructor
  · rintro ⟨more, rest, qs, hfs, _, hrest, rfl⟩
    obtain ⟨rfl, rfl⟩ := List.append_eq_nil_iff.mp hfs.symm
    cases hrest
    simp
  · rintro rfl
    exact ⟨[], [], [], rfl, by simp, .nil, by simp⟩

theorem spellsRest_pair_iff (hf : '=' ∈ f) :
    SpellsRest p (f :: fs) ps ↔ ∃ qs, SpellsPairs (f :: fs) qs ∧ ps = p :: qs := by
  constructor
  · rintro ⟨more, rest, qs, hfs, hmore, hrest, rfl⟩
    cases more with
    | nil =>
      obtain rfl : f :: fs = rest := hfs
      exact ⟨qs, hrest, by simp⟩
    | cons g more =>
      obtain ⟨rfl, _⟩ := List.cons.inj hfs
      exact absurd hf (hmore f List.mem_cons_self).noEquals
  · rintro ⟨qs, hqs, rfl⟩
    exact ⟨[], f :: fs, qs, rfl, by simp, hqs, by simp⟩

theorem spellsRest_continued_iff (hf : '=' ∉ f) : SpellsRest p (f :: fs) ps ↔
    f ≠ [] ∧ SpellsRest (p.1, p.2 ++ '_' :: f) fs ps := by
  constructor
  · rintro ⟨more, rest, qs, hfs, hmore, hrest, rfl⟩
    cases more with
    | nil =>
      obtain rfl : f :: fs = rest := hfs
      obtain ⟨q, hpair, _⟩ := spellsPairs_cons_iff.mp hrest
      exact absurd hpair.equals_mem hf
    | cons g more =>
      obtain ⟨rfl, rfl⟩ := List.cons.inj hfs
      obtain ⟨hf, hmore⟩ := List.forall_mem_cons.mp hmore
      exact ⟨hf.nonempty, more, rest, qs, rfl, hmore, hrest, by simp⟩
  · rintro ⟨nonempty, more, rest, qs, rfl, hmore, hrest, rfl⟩
    have continued : ∀ g ∈ f :: more, Continues g :=
      List.forall_mem_cons.mpr ⟨⟨nonempty, hf⟩, hmore⟩
    exact ⟨f :: more, rest, qs, rfl, continued, hrest, by simp⟩

theorem readFragments_pair_iff {last : Option Pair} (hf : '=' ∈ f) :
    readFragments last (f :: fs) = .ok ps ↔ ∃ p, SpellsPair f p ∧
      ∃ qs, readFragments (some p) fs = .ok qs ∧ ps = last.toList ++ qs := by
  conv_lhs => unfold readFragments
  rw [if_pos hf]
  simp only [except_bind_eq_ok_iff, readPair_eq_ok_iff]
  refine exists_congr fun p => and_congr_right fun _ => ?_
  refine exists_congr fun qs => and_congr_right fun _ => ?_
  exact ⟨fun h => (Except.ok.inj h).symm, fun h => h ▸ rfl⟩

theorem readFragments_some_iff : readFragments (some p) fs = .ok ps ↔ SpellsRest p fs ps := by
  induction fs generalizing p ps with
  | nil =>
    rw [spellsRest_nil_iff, readFragments, Except.ok.injEq]
    exact eq_comm
  | cons f fs ih =>
    by_cases hf : '=' ∈ f
    · rw [readFragments_pair_iff hf, spellsRest_pair_iff hf]
      simp only [ih, spellsPairs_cons_iff]
      constructor
      · rintro ⟨q, hpair, qs, hrest, rfl⟩
        exact ⟨qs, ⟨q, hpair, hrest⟩, rfl⟩
      · rintro ⟨qs, ⟨q, hpair, hrest⟩, rfl⟩
        exact ⟨q, hpair, qs, hrest, rfl⟩
    · rw [spellsRest_continued_iff hf, ← ih]
      cases f with
      | nil => simp [readFragments]
      | cons c f => simp [readFragments, hf]

theorem readFragments_none_iff : readFragments none fs = .ok ps ↔ SpellsPairs fs ps := by
  cases fs with
  | nil =>
    constructor
    · intro h
      obtain rfl := Except.ok.inj h
      exact .nil
    · rintro ⟨⟩
      rfl
  | cons f fs =>
    by_cases hf : '=' ∈ f
    · rw [readFragments_pair_iff hf, spellsPairs_cons_iff]
      simp [readFragments_some_iff]
    · have refused : ¬SpellsPairs (f :: fs) ps := by
        intro h
        obtain ⟨q, hpair, _⟩ := spellsPairs_cons_iff.mp h
        exact hf hpair.equals_mem
      simp [readFragments, hf, refused]

end Rest

theorem SpellsPairs.segment {body : List Char} {ps : List Pair}
    (h : SpellsPairs (Text.pieces '_' body) ps) :
    SpellsSegment ("policy_".toList ++ body) (ps.map fun p => (true, p)) := by
  obtain ⟨f, fs, hfs⟩ := List.exists_cons_of_ne_nil (Text.pieces_ne_nil '_' body)
  obtain ⟨rfl, apart⟩ := Text.pieces_eq_iff.mp hfs
  rw [hfs] at h
  exact .policy apart h

theorem readSegment_eq_ok_iff {s : List Char} {items : List (Bool × Pair)} :
    readSegment s = .ok items ↔ SpellsSegment s items := by
  constructor
  · intro h
    unfold readSegment at h
    split at h
    next => cases h
    next =>
      split at h
      next body hbody =>
        obtain ⟨ps, hps, h⟩ := except_bind_eq_ok_iff.mp h
        obtain rfl := Except.ok.inj h
        obtain rfl := Text.after?_eq_some_iff.mp hbody
        exact (readFragments_none_iff.mp hps).segment
      next hbody =>
        obtain ⟨p, hp, h⟩ := except_bind_eq_ok_iff.mp h
        obtain rfl := Except.ok.inj h
        refine .bare ?_ (readPair_eq_ok_iff.mp hp)
        rintro ⟨body, rfl⟩
        rw [Text.after?_eq_some_iff.mpr rfl] at hbody
        cases hbody
  · rintro (⟨apart, hps⟩ | ⟨bare, hp⟩)
    · rw [readSegment, if_neg (by simp), Text.after?_eq_some_iff.mpr rfl]
      simp only
      rw [Text.pieces_eq_iff.mpr ⟨rfl, apart⟩, readFragments_none_iff.mpr hps]
      rfl
    · have hne : s ≠ [] := by
        rintro rfl
        cases hp.equals_mem
      have hbody : Text.after? "policy_".toList s = none := by
        cases hbody : Text.after? "policy_".toList s with
        | none => rfl
        | some body => exact absurd ⟨body, (Text.after?_eq_some_iff.mp hbody).symm⟩ bare
      rw [readSegment, if_neg hne, hbody]
      simp only
      rw [readPair_eq_ok_iff.mpr hp]
      rfl

theorem threshold_apart {key : String} (h : key ∈ thresholdKeys) :
    key ≠ "default" ∧ key ≠ "privacy" := by
  constructor
  all_goals
    rintro rfl
    simp [thresholdKeys] at h

theorem acceptedValue?_eq_some_iff {key value kept : String} :
    acceptedValue? key value = some kept ↔ Accepts key value kept := by
  constructor
  · intro h
    unfold acceptedValue? at h
    split at h
    next hk =>
      split at h
      next hv =>
        obtain rfl := Option.some.inj h
        exact hk ▸ .default hv
      next => cases h
    next =>
      split at h
      next hk =>
        obtain ⟨t, ht, rfl⟩ := Option.map_eq_some_iff.mp h
        exact hk ▸ .privacy ht
      next =>
        split at h
        next hk =>
          obtain rfl := Option.some.inj h
          obtain ⟨x, hx, finite⟩ := (Option.any_eq_true _ _).mp hk.2
          exact .threshold hk.1 hx finite
        next => cases h
  · rintro (hv | ht | ⟨hk, hx, finite⟩)
    · simp [acceptedValue?, hv]
    · simp [acceptedValue?, ht]
    · have numeral : isFiniteNumeral value = true := by simp [isFiniteNumeral, hx, finite]
      simp [acceptedValue?, threshold_apart hk, hk, numeral]

def extraPairs (items : List (Bool × Pair)) : List (String × String) :=
  (items.filter fun b => !b.1 && String.ofList b.2.1 ∈ keptExtras).map fun b =>
    (String.ofList b.2.1, String.ofList b.2.2)

structure KeptAs (p kept : String × String) : Prop where
  key : kept.1 = p.1
  value : Accepts p.1 p.2 kept.2

def Request.overlay (r : Request) (policy extra : List (String × String)) : Request :=
  { r with
    policy := policy.foldl (fun m e => m.insert e.1 e.2) r.policy
    extra := extra.foldl (fun m e => m.insert e.1 e.2) r.extra }

theorem storePairs_eq_ok_iff {items : List (Bool × Pair)} {r r' : Request} :
    items.foldlM storePair r = .ok r' ↔ ∃ kept, List.Forall₂ KeptAs (policyPairs items) kept ∧
      r' = r.overlay kept (extraPairs items) := by
  induction items generalizing r with
  | nil =>
    constructor
    · intro h
      obtain rfl := Except.ok.inj h
      exact ⟨[], .nil, rfl⟩
    · rintro ⟨kept, hkept, rfl⟩
      obtain rfl : kept = [] := by cases hkept; rfl
      rfl
  | cons b items ih =>
    obtain ⟨inPolicy, key, value⟩ := b
    rw [List.foldlM_cons]
    simp only [except_bind_eq_ok_iff, ih]
    cases inPolicy with
    | false =>
      have pairs : policyPairs ((false, key, value) :: items) = policyPairs items := rfl
      have stored : ∀ kept, Request.overlay
          (if String.ofList key ∈ keptExtras then
            { r with extra := r.extra.insert (String.ofList key) (String.ofList value) } else r)
          kept (extraPairs items) = r.overlay kept (extraPairs ((false, key, value) :: items)) := by
        intro kept
        by_cases hk : String.ofList key ∈ keptExtras <;> simp [extraPairs, Request.overlay, hk]
      simp only [storePair, pairs, Except.ok.injEq, exists_eq_left', stored]
    | true =>
      have pairs : policyPairs ((true, key, value) :: items) =
        (String.ofList key, String.ofList value) :: policyPairs items := rfl
      have extras : extraPairs ((true, key, value) :: items) = extraPairs items := rfl
      rw [pairs, extras]
      constructor
      · rintro ⟨next, hstore, kept, hkept, rfl⟩
        simp only [storePair] at hstore
        split at hstore
        next v hv =>
          obtain rfl := Except.ok.inj hstore
          have first : KeptAs (String.ofList key, String.ofList value) (String.ofList key, v) :=
            ⟨rfl, acceptedValue?_eq_some_iff.mp hv⟩
          exact ⟨(String.ofList key, v) :: kept, .cons first hkept, rfl⟩
        next => cases hstore
      · rintro ⟨_, hkept, rfl⟩
        cases hkept with
        | @cons _ first _ kept hfirst hkept =>
          obtain ⟨k, v⟩ := first
          obtain ⟨rfl, hv⟩ := hfirst
          refine ⟨{ r with policy := r.policy.insert (String.ofList key) v }, ?_, kept, hkept, rfl⟩
          simp only [storePair, acceptedValue?_eq_some_iff.mpr hv]

theorem storeSegments_eq_ok_iff {segments : List (List Char)} {r r' : Request} :
    segments.foldlM storeSegment r = .ok r' ↔ ∃ items, List.Forall₂ SpellsSegment segments items ∧
      items.flatten.foldlM storePair r = .ok r' := by
  induction segments generalizing r with
  | nil => simp
  | cons s segments ih =>
    simp only [List.foldlM_cons, except_bind_eq_ok_iff, ih, storeSegment, readSegment_eq_ok_iff,
      List.forall₂_cons_left_iff]
    constructor
    · rintro ⟨next, ⟨first, hfirst, hnext⟩, items, hitems, hr⟩
      refine ⟨first :: items, ⟨first, items, hfirst, hitems, rfl⟩, ?_⟩
      rw [List.flatten_cons, List.foldlM_append]
      exact except_bind_eq_ok_iff.mpr ⟨next, hnext, hr⟩
    · rintro ⟨_, ⟨first, items, hfirst, hitems, rfl⟩, hr⟩
      rw [List.flatten_cons, List.foldlM_append] at hr
      obtain ⟨next, hnext, hr⟩ := except_bind_eq_ok_iff.mp hr
      exact ⟨next, ⟨first, hfirst, hnext⟩, items, hitems, hr⟩

theorem get?_ofList (key : String) (l : List (String × String)) :
    (SortedMap.ofList l).get? key = lastGiven key l :=
  SortedMap.get?_ofList l key

/-- The request of a version, the pairs that its policy keeps and the extras; a later pair replaces
an earlier one, and `default` is true if no pair says otherwise. -/
def Request.ofPairs (version : List Char) (policy extra : List (String × String)) : Request :=
  ⟨String.ofList version, .ofList (("default", "true") :: policy), .ofList extra⟩

/-- The default policy is not declined, or something is put in its place. -/
def Complete (r : Request) : Prop :=
  r.policy.get? "default" = some "true" ∨ ∃ key, key ≠ "default" ∧ r.policy.contains key

theorem overrides_ne_nil_iff {r : Request} :
    r.overrides ≠ [] ↔ ∃ key, key ≠ "default" ∧ r.policy.contains key := by
  simp only [Request.overrides, ne_eq, List.filter_eq_nil_iff, decide_eq_true_eq, not_not,
    not_forall, SortedMap.contains, List.any_eq_true]
  constructor
  · rintro ⟨e, he, hk⟩
    exact ⟨e.1, hk, e, he, rfl⟩
  · rintro ⟨_, hk, e, he, rfl⟩
    exact ⟨e, he, hk⟩

theorem Accepts.kept_again {key value kept : String} (h : Accepts key value kept) :
    Accepts key kept kept := by
  cases h with
  | default hv => exact .default hv
  | privacy => exact .privacy (PrivacyTier.read?_name _)
  | threshold hk hx finite => exact .threshold hk hx finite

theorem kept_again {ps kept : List (String × String)} (h : List.Forall₂ KeptAs ps kept) :
    ∀ p ∈ kept, KeptAs p p := by
  induction h with
  | nil => simp
  | cons hp _ ih =>
    refine List.forall_mem_cons.mpr ⟨⟨rfl, ?_⟩, ih⟩
    exact hp.key ▸ hp.value.kept_again

theorem default_known {kept : List (String × String)} (h : ∀ p ∈ kept, KeptAs p p)
    (version : List Char) (extra : List (String × String)) :
    (Request.ofPairs version kept extra).policy.get? "default" = some "true" ∨
      (Request.ofPairs version kept extra).policy.get? "default" = some "false" := by
  have present : ∃ v, lastGiven "default" (("default", "true") :: kept) = some v := by
    simp [lastGiven, List.getLast?_cons]
  obtain ⟨v, hv⟩ := present
  rw [Request.ofPairs, get?_ofList, hv, Option.some.injEq, Option.some.injEq]
  rcases List.mem_cons.mp (lastGiven_mem hv) with heq | hmem
  · exact Or.inl (Prod.mk.inj heq).2
  · generalize hk : "default" = key at hmem
    obtain hvalue | _ | ⟨hkey, _⟩ := (h _ hmem).value
    · exact hvalue
    · simp at hk
    · exact absurd hk.symm (threshold_apart hkey).1

theorem checkOverrides_eq_ok_iff {r r' : Request}
    (known : r.policy.get? "default" = some "true" ∨ r.policy.get? "default" = some "false") :
    checkOverrides r = .ok r' ↔ Complete r ∧ r' = r := by
  have refused : (r.policy.get? "default" = some "false" ∧ r.overrides = []) ↔ ¬Complete r := by
    rw [Complete, ← overrides_ne_nil_iff]
    rcases known with h | h <;> simp [h]
  unfold checkOverrides
  by_cases complete : Complete r
  · rw [if_neg fun h => refused.mp h complete]
    simp [complete, eq_comm]
  · rw [if_pos (refused.mpr complete)]
    simp [complete]

theorem checkOverrides_ofPairs {ps kept : List (String × String)}
    (hkept : List.Forall₂ KeptAs ps kept) {version : List Char} {extra : List (String × String)}
    {r : Request} :
    checkOverrides (.ofPairs version kept extra) = .ok r ↔
      Complete (.ofPairs version kept extra) ∧ r = .ofPairs version kept extra :=
  checkOverrides_eq_ok_iff (default_known (kept_again hkept) version extra)

theorem read_of_spells {s : String} {version : List Char} {items : List (Bool × Pair)}
    {kept : List (String × String)} (hs : Spells s version items)
    (hkept : List.Forall₂ KeptAs (policyPairs items) kept)
    (complete : Complete (.ofPairs version kept (extraPairs items))) :
    read s = .ok (.ofPairs version kept (extraPairs items)) := by
  cases hs with | @string rest _ segments items htext hcut hversion hitems
  have stored : segments.foldlM storeSegment (Request.ofVersion (String.ofList version)) =
      .ok (.ofPairs version kept (extraPairs items.flatten)) :=
    storeSegments_eq_ok_iff.mpr ⟨items, hitems, storePairs_eq_ok_iff.mpr ⟨kept, hkept, rfl⟩⟩
  obtain ⟨c, cs, rfl⟩ := List.exists_cons_of_ne_nil hversion
  rw [read, Text.after?_eq_some_iff.mpr htext]
  simp only [Text.cutAtDoubles_iff.mp hcut]
  rw [stored]
  exact (checkOverrides_ofPairs hkept).mpr ⟨complete, rfl⟩

theorem spells_of_read {s : String} {r : Request} (h : read s = .ok r) : ∃ version items kept,
    Spells s version items ∧ List.Forall₂ KeptAs (policyPairs items) kept ∧
      Complete (.ofPairs version kept (extraPairs items)) ∧
      r = .ofPairs version kept (extraPairs items) := by
  unfold read at h
  split at h
  next => cases h
  next rest htext =>
    split at h
    next => cases h
    next => cases h
    next version segments hne hpieces =>
      obtain ⟨r', hstored, h⟩ := except_bind_eq_ok_iff.mp h
      obtain ⟨items, hitems, hstored⟩ := storeSegments_eq_ok_iff.mp hstored
      obtain ⟨kept, hkept, rfl⟩ := storePairs_eq_ok_iff.mp hstored
      obtain ⟨complete, rfl⟩ := (checkOverrides_ofPairs hkept).mp h
      have spelled : Spells s version items.flatten :=
        .string (Text.after?_eq_some_iff.mp htext) (Text.cutAtDoubles_iff.mpr hpieces) hne hitems
      exact ⟨version, items.flatten, kept, spelled, hkept, complete, rfl⟩

theorem entries_kept {s : String} {r : Request} (h : read s = .ok r) :
    ∀ e ∈ r.policy.entries, KeptAs e e := by
  obtain ⟨version, items, kept, _, hkept, _, rfl⟩ := spells_of_read h
  intro e he
  have given := SortedMap.get?_eq_some_iff.mpr he
  rw [Request.ofPairs, get?_ofList] at given
  rcases List.mem_cons.mp (lastGiven_mem given) with he | he
  · obtain rfl : e = ("default", "true") := he
    exact ⟨rfl, .default (Or.inl rfl)⟩
  · exact kept_again hkept e he

/-- A string is read exactly if the rules spell it with values that are accepted, and as what it is
spelled from: its version, its policy pairs in their order, as they are kept, over a `default` of
true, and its extras. -/
theorem read_iff_spelled {s : String} {r : Request} : read s = .ok r ↔ ∃ version items kept,
    Spells s version items ∧ List.Forall₂ KeptAs (policyPairs items) kept ∧
      Complete (.ofPairs version kept (extraPairs items)) ∧
      r = .ofPairs version kept (extraPairs items) := by
  constructor
  · exact spells_of_read
  · rintro ⟨version, items, kept, spelled, hkept, complete, rfl⟩
    exact read_of_spells spelled hkept complete

end ModelString
end InferenceDispatch
