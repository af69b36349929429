import InferenceDispatch.ModelString.Reader
import InferenceDispatch.Proofs.Lookup
import InferenceDispatch.Proofs.Runs
import Mathlib.Data.List.DropRight

namespace InferenceDispatch

namespace Text

theorem trimBoth_idempotent (p : Char → Bool) (s : List Char) :
    trimBoth p (trimBoth p s) = trimBoth p s := by
  change List.rdropWhile p ((List.rdropWhile p (s.dropWhile p)).dropWhile p) =
    List.rdropWhile p (s.dropWhile p)
  have front : (List.rdropWhile p (s.dropWhile p)).dropWhile p =
      List.rdropWhile p (s.dropWhile p) := by
    cases ht : List.rdropWhile p (s.dropWhile p) with
    | nil => rfl
    | cons c t =>
      -- the first character that is left is the first behind the dropped ones
      obtain ⟨u, hu⟩ := List.rdropWhile_prefix (p := p) (l := s.dropWhile p)
      rw [ht] at hu
      have hne : s.dropWhile p ≠ [] := by
        rw [← hu]
        exact List.cons_ne_nil _ _
      have hc : ¬p c = true := by
        have hhead := List.head_dropWhile_not p hne
        simpa [← hu] using hhead
      rw [List.dropWhile_cons_of_neg hc]
  rw [front, List.rdropWhile_idempotent]

theorem trimChars_trim (s : String) : trimChars (trim s).toList = trimChars s.toList := by
  rw [trim, String.toList_ofList]
  exact trimBoth_idempotent isBlank s.toList

theorem prefix_trimChars {start s : List Char} (hs : start <+: s) (tight : trimChars start = start) :
    start <+: trimChars s := by
  obtain ⟨rest, rfl⟩ := hs
  change List.rdropWhile isBlank (start.dropWhile isBlank) = start at tight
  have front : start.dropWhile isBlank = start := by
    refine (List.dropWhile_suffix isBlank).eq_of_length_le ?_
    have hle := (List.rdropWhile_prefix (p := isBlank) (l := start.dropWhile isBlank)).length_le
    rwa [tight] at hle
  rw [front] at tight
  cases start with
  | nil => exact List.nil_prefix
  | cons c t =>
    have kept : (c :: t ++ rest).dropWhile isBlank = c :: t ++ rest := by
      rw [List.dropWhile_append, front]
      rfl
    change c :: t <+: List.rdropWhile isBlank ((c :: t ++ rest).dropWhile isBlank)
    rw [kept, List.rdropWhile, List.reverse_append, List.dropWhile_append]
    split
    next => exact (congrArg (c :: t <+: ·) tight).mpr (List.prefix_refl _)
    next => exact ⟨_, by rw [List.reverse_append, List.reverse_reverse]⟩

theorem trimChars_tight {s : List Char} {a b : Char} (hs : s.head? = some a) (hs' : s.getLast? = some b)
    (ha : isBlank a = false) (hb : isBlank b = false) : trimChars s = s := by
  obtain ⟨r, rfl⟩ := List.head?_eq_some_iff.mp hs
  have front : (a :: r).dropWhile isBlank = a :: r := List.dropWhile_cons_of_neg (by simp [ha])
  change List.rdropWhile isBlank ((a :: r).dropWhile isBlank) = a :: r
  rw [front]
  obtain ⟨u, hu⟩ := List.getLast?_eq_some_iff.mp hs'
  rw [hu]
  exact List.rdropWhile_concat_neg isBlank u b (by simp [hb])

theorem cutAt?_eq_some_iff {sep : Char} {s a b : List Char} :
    cutAt? sep s = some (a, b) ↔ s = a ++ sep :: b ∧ sep ∉ a := by
  induction s generalizing a with
  | nil => simp [cutAt?]
  | cons c r ih =>
    unfold cutAt?
    split
    next hc =>
      subst hc
      cases a with
      | nil => simp [eq_comm]
      | cons d a =>
        simp only [Option.some.injEq, Prod.mk.injEq, List.nil_eq, reduceCtorEq, false_and, List.cons_append,
          List.cons.injEq, List.mem_cons, not_or, false_iff, not_and]
        rintro ⟨rfl, _⟩ hne
        exact absurd rfl hne
    next hc =>
      cases a with
      | nil => simp [hc]
      | cons d a =>
        simp only [Option.map_eq_some_iff, Prod.exists, Prod.mk.injEq, List.cons_append,
          List.cons.injEq, List.mem_cons, not_or]
        constructor
        · rintro ⟨a', b', h, ⟨hcd, rfl⟩, rfl⟩
          obtain ⟨hr, ha⟩ := ih.mp h
          exact ⟨⟨hcd, hr⟩, hcd ▸ Ne.symm hc, ha⟩
        · rintro ⟨⟨hcd, hr⟩, _, ha⟩
          exact ⟨a, b, ih.mpr ⟨hr, ha⟩, ⟨hcd, rfl⟩, rfl⟩

end Text

namespace ModelString

/-- Joins every fragment without an equals sign to the fragment before it, as part of its value. -/
def joinContinued : List (List Char) → List (List Char)
  | [] => []
  | f :: rest =>
    match joinContinued rest with
    | [] => [f]
    | g :: gs => if '=' ∈ g then f :: g :: gs else (f ++ '_' :: g) :: gs

def pairIn? (s : List Char) : Option (String × String) :=
  (Text.cutAt? '=' s).map fun p => (String.ofList p.1, String.ofList p.2)

/-- The policy pairs of one segment. -/
def givenIn (s : List Char) : List (String × String) :=
  match Text.after? "policy_".toList s with
  | some body => (joinContinued (Text.pieces '_' body)).filterMap pairIn?
  | none => (pairIn? s).toList.filter fun p => p.1 ∈ policyKeys

def given (field : String) : List (String × String) :=
  (Text.piecesAtDouble '_' ((Text.trimChars field.toList).drop stem.length)).tail.flatMap givenIn

def lastGiven (key : String) (ps : List (String × String)) : Option String :=
  ((ps.filter fun p => p.1 = key).getLast?).map Prod.snd

theorem lastGiven_concat (key : String) (ps : List (String × String)) (p : String × String) :
    lastGiven key (ps ++ [p]) = if p.1 = key then some p.2 else lastGiven key ps := by
  unfold lastGiven
  rw [List.filter_append]
  by_cases hp : p.1 = key <;> simp [hp]

theorem lastGiven_cons (key : String) (e : String × String) (l : List (String × String)) :
    lastGiven key (e :: l) = (lastGiven key l).or (if e.1 = key then some e.2 else none) := by
  unfold lastGiven
  rw [List.filter_cons]
  by_cases hk : e.1 = key
  · cases hl : (l.filter fun p => p.1 = key).getLast? <;> simp [hk, List.getLast?_cons, hl]
  · simp [hk]

theorem lastGiven_mem {key value : String} {ps : List (String × String)}
    (h : lastGiven key ps = some value) : (key, value) ∈ ps := by
  obtain ⟨p, hp, rfl⟩ := Option.map_eq_some_iff.mp h
  obtain ⟨hm, hk⟩ := List.mem_filter.mp (List.mem_of_getLast? hp)
  obtain rfl := of_decide_eq_true hk
  exact hm

/-- Where keys are distinct, what is given last is what is given. -/
theorem lastGiven_of_nodup {l : List (String × String)} (nodup : (l.map Prod.fst).Nodup) {key value : String} :
    lastGiven key l = some value ↔ (key, value) ∈ l := by
  refine ⟨lastGiven_mem, fun h => ?_⟩
  have given : (lastGiven key l).isSome := by
    simpa [lastGiven] using ⟨value, h⟩
  obtain ⟨v, hv⟩ := Option.isSome_iff_exists.mp given
  have same := List.inj_on_of_nodup_map nodup (lastGiven_mem hv) h rfl
  rw [hv, (Prod.mk.inj same).2]

section Fragments

theorem readPair_eq_ok {s : List Char} {p : Pair} (h : readPair s = .ok p) :
    Text.cutAt? '=' s = some p := by
  unfold readPair at h
  split at h
  next key value hc =>
    split at h
    next => rw [hc, Except.ok.inj h]
    next => cases h
  next => cases h

theorem joinContinued_cons (f : List Char) (rest : List (List Char)) :
    ∃ x gs, joinContinued (f :: rest) = (f ++ x) :: gs := by
  unfold joinContinued
  split
  next => exact ⟨[], [], by simp⟩
  next g gs _ =>
    split
    next => exact ⟨[], g :: gs, by simp⟩
    next => exact ⟨'_' :: g, gs, rfl⟩

theorem joinContinued_of_mem {f g : List Char} (hg : '=' ∈ g) (rest : List (List Char)) :
    joinContinued (f :: g :: rest) = f :: joinContinued (g :: rest) := by
  obtain ⟨x, gs, hx⟩ := joinContinued_cons g rest
  rw [joinContinued, hx]
  simp [hg]

theorem joinContinued_of_not_mem {f g : List Char} (hg : '=' ∉ g) (rest : List (List Char)) :
    joinContinued (f :: g :: rest) = joinContinued ((f ++ '_' :: g) :: rest) := by
  rw [joinContinued, joinContinued, joinContinued]
  cases joinContinued rest with
  | nil => simp [hg]
  | cons x xs => by_cases hx : '=' ∈ x <;> simp [hx, hg]

theorem readFragments_some {fs : List (List Char)} {last : Pair} {text : List Char} {ps : List Pair}
    (htext : Text.cutAt? '=' text = some last) (h : readFragments (some last) fs = .ok ps) :
    ps = (joinContinued (text :: fs)).filterMap (Text.cutAt? '=') := by
  induction fs generalizing last text ps with
  | nil =>
    obtain rfl := Except.ok.inj h
    simp [joinContinued, htext]
  | cons f rest ih =>
    unfold readFragments at h
    split at h
    next hf =>
      obtain ⟨p, hp, h⟩ := except_bind_eq_ok_iff.mp h
      obtain ⟨qs, hqs, h⟩ := except_bind_eq_ok_iff.mp h
      obtain rfl := Except.ok.inj h
      rw [joinContinued_of_mem hf, List.filterMap_cons, htext, ih (readPair_eq_ok hp) hqs]
      rfl
    next hf =>
      split at h
      next _ _ key value c f' hlast =>
        obtain rfl := Option.some.inj hlast
        obtain ⟨htext, hkey⟩ := Text.cutAt?_eq_some_iff.mp htext
        have longer : Text.cutAt? '=' (text ++ '_' :: c :: f') = some (key, value ++ '_' :: c :: f') :=
          Text.cutAt?_eq_some_iff.mpr ⟨by simp [htext], hkey⟩
        rw [joinContinued_of_not_mem hf]
        exact ih longer h
      next => cases h

theorem readFragments_none {fs : List (List Char)} {ps : List Pair}
    (h : readFragments none fs = .ok ps) :
    ps = (joinContinued fs).filterMap (Text.cutAt? '=') := by
  cases fs with
  | nil =>
    obtain rfl := Except.ok.inj h
    rfl
  | cons f rest =>
    unfold readFragments at h
    split at h
    next hf =>
      obtain ⟨p, hp, h⟩ := except_bind_eq_ok_iff.mp h
      obtain ⟨qs, hqs, h⟩ := except_bind_eq_ok_iff.mp h
      obtain rfl := Except.ok.inj h
      rw [← readFragments_some (readPair_eq_ok hp) hqs]
      rfl
    next => cases h

end Fragments

def policyPairs (bps : List (Bool × Pair)) : List (String × String) :=
  (bps.filter fun b => b.1).map fun b => (String.ofList b.2.1, String.ofList b.2.2)

theorem policyPairs_readSegment {s : List Char} {bps : List (Bool × Pair)}
    (h : readSegment s = .ok bps) : policyPairs bps = givenIn s := by
  unfold readSegment at h
  split at h
  next => cases h
  next =>
    cases hbody : Text.after? "policy_".toList s with
    | some body =>
      rw [hbody] at h
      have given : givenIn s = (joinContinued (Text.pieces '_' body)).filterMap pairIn? := by
        rw [givenIn, hbody]
      obtain ⟨ps, hps, h⟩ := except_bind_eq_ok_iff.mp h
      obtain rfl := Except.ok.inj h
      have all : (ps.map fun p => (true, p)).filter (fun b => b.1) = ps.map fun p => (true, p) :=
        List.filter_eq_self.mpr fun b hb => by
          obtain ⟨p, _, rfl⟩ := List.mem_map.mp hb
          rfl
      rw [given, policyPairs, all, List.map_map, readFragments_none hps, List.map_filterMap]
      rfl
    | none =>
      rw [hbody] at h
      have given : givenIn s = (pairIn? s).toList.filter fun p => p.1 ∈ policyKeys := by
        rw [givenIn, hbody]
      obtain ⟨p, hp, h⟩ := except_bind_eq_ok_iff.mp h
      obtain rfl := Except.ok.inj h
      rw [given, policyPairs]
      simp only [pairIn?, readPair_eq_ok hp, Option.map_some, Option.toList_some]
      by_cases hk : String.ofList p.1 ∈ policyKeys <;> simp [hk]

/-- A request that was read so far: every pair that was given is acceptable, and of every key the policy
holds what was given last; `default` is true if it was not given. -/
structure Keeps (r : Request) (ps : List (String × String)) : Prop where
  accepted : ∀ p ∈ ps, (acceptedValue? p.1 p.2).isSome
  policy : ∀ key, r.policy.get? key = ((lastGiven key ps).bind (acceptedValue? key)).or
    (if key = "default" then some "true" else none)

theorem keeps_ofVersion (version : String) : Keeps (Request.ofVersion version) [] where
  accepted := by simp
  policy := fun key => by
    rw [Request.ofVersion, SortedMap.get?_insert]
    rfl

theorem Keeps.storePair {r r' : Request} {ps : List (String × String)} (h : Keeps r ps)
    {b : Bool × Pair} (hs : ModelString.storePair r b = .ok r') : Keeps r' (ps ++ policyPairs [b]) := by
  obtain ⟨inPolicy, key, value⟩ := b
  cases inPolicy with
  | false =>
    obtain rfl := Except.ok.inj hs
    have same : policyPairs [(false, key, value)] = [] := rfl
    rw [same, List.append_nil]
    refine ⟨h.accepted, fun k => ?_⟩
    rw [← h.policy k]
    split <;> rfl
  | true =>
    simp only [ModelString.storePair] at hs
    have one : policyPairs [(true, key, value)] = [(String.ofList key, String.ofList value)] := rfl
    rw [one]
    split at hs
    next w hw =>
      obtain rfl := Except.ok.inj hs
      refine ⟨fun p hp => ?_, fun k => ?_⟩
      · rcases List.mem_append.mp hp with hp | hp
        · exact h.accepted p hp
        · obtain rfl := List.mem_singleton.mp hp
          simp [hw]
      · rw [SortedMap.get?_insert, lastGiven_concat]
        by_cases hk : k = String.ofList key
        · subst hk
          simp [hw]
        · simp [hk, Ne.symm hk, h.policy k]
    next => cases hs

theorem Keeps.storePairs {bps : List (Bool × Pair)} {r r' : Request} {ps : List (String × String)}
    (h : Keeps r ps) (hs : bps.foldlM ModelString.storePair r = .ok r') :
    Keeps r' (ps ++ policyPairs bps) := by
  induction bps generalizing r ps with
  | nil =>
    obtain rfl := Except.ok.inj hs
    simpa [policyPairs] using h
  | cons b bps ih =>
    rw [List.foldlM_cons] at hs
    obtain ⟨r₁, hb, hs⟩ := except_bind_eq_ok_iff.mp hs
    have split : policyPairs (b :: bps) = policyPairs [b] ++ policyPairs bps := by
      simp only [policyPairs, ← List.map_append, ← List.filter_append, List.singleton_append]
    rw [split, ← List.append_assoc]
    exact ih (h.storePair hb) hs

theorem Keeps.storeSegments {segments : List (List Char)} {r r' : Request}
    {ps : List (String × String)} (h : Keeps r ps)
    (hs : segments.foldlM ModelString.storeSegment r = .ok r') :
    Keeps r' (ps ++ segments.flatMap givenIn) := by
  induction segments generalizing r ps with
  | nil =>
    obtain rfl := Except.ok.inj hs
    simpa using h
  | cons s segments ih =>
    rw [List.foldlM_cons] at hs
    obtain ⟨r₁, hsegment, hs⟩ := except_bind_eq_ok_iff.mp hs
    obtain ⟨bps, hr, hb⟩ := except_bind_eq_ok_iff.mp hsegment
    rw [List.flatMap_cons, ← List.append_assoc]
    exact ih (policyPairs_readSegment hr ▸ h.storePairs hb) hs

theorem Keeps.accepted_last {r : Request} {ps : List (String × String)} (h : Keeps r ps)
    {key value : String} (hl : lastGiven key ps = some value) :
    ∃ w, acceptedValue? key value = some w :=
  Option.isSome_iff_exists.mp (h.accepted _ (lastGiven_mem hl))

theorem Keeps.usesDefault {r : Request} {ps : List (String × String)} (h : Keeps r ps) :
    r.usesDefault = (lastGiven "default" ps).all (· = "true") := by
  rw [Request.usesDefault, h.policy "default", if_pos rfl]
  cases hl : lastGiven "default" ps with
  | none => rfl
  | some v =>
    obtain ⟨w, hw⟩ := h.accepted_last hl
    obtain ⟨_, rfl⟩ : (v = "true" ∨ v = "false") ∧ v = w := by simpa [acceptedValue?] using hw
    rw [Option.bind_some, hw]
    rfl

theorem find?_overrides (r : Request) {key : String} (h : key ≠ "default") :
    (r.overrides.find? fun e => e.1 = key) = r.policy.entries.find? fun e => e.1 = key := by
  rw [Request.overrides, List.find?_filter]
  congr 1
  funext e
  by_cases hk : e.1 = key <;> simp [hk, h]

theorem keeps_read {field : String} {r : Request} (h : read field = .ok r) : Keeps r (given field) := by
  unfold read at h
  split at h
  next => cases h
  next rest hrest =>
    have hdrop : (Text.trimChars field.toList).drop stem.length = rest := by
      rw [Text.after?_eq_some_iff.mp hrest]
      exact List.drop_left ..
    unfold given
    rw [hdrop]
    split at h
    next => cases h
    next => cases h
    next version segments _ hp =>
      obtain ⟨r₁, hs, h⟩ := except_bind_eq_ok_iff.mp h
      unfold checkOverrides at h
      split at h
      next => cases h
      next =>
        obtain rfl := Except.ok.inj h
        rw [hp]
        exact (keeps_ofVersion _).storeSegments hs

end ModelString

end InferenceDispatch
