import InferenceDispatch.Proofs.ModelString.Grammar
import InferenceDispatch.Proofs.ModelString.Numerals

namespace InferenceDispatch

namespace ModelString

/-- What a kept value is made of: fragments that may continue a value, none of them with a blank. -/
structure Sturdy (v : String) : Prop where
  fragments : ∀ g ∈ Text.pieces '_' v.toList, Continues g
  noBlanks : v.toList.any Text.isBlank = false

theorem sturdy_flag {v : String} (h : v = "true" ∨ v = "false") : Sturdy v := by
  rcases h with rfl | rfl
  · exact ⟨by decide, by decide⟩
  · exact ⟨by decide, by decide⟩

theorem sturdy_tier (t : PrivacyTier) : Sturdy t.name := by
  cases t
  all_goals exact ⟨by decide +kernel, by decide +kernel⟩

theorem sturdy_numeral {v : String} {x : Double} (h : readDouble? v.toList = some x)
    (finite : x.isFinite = true) : Sturdy v := by
  obtain ⟨nonempty, numeral⟩ := numeral_readDouble h finite
  have single : Text.pieces '_' v.toList = [v.toList] :=
    Text.pieces_of_not_mem fun hc => (numeral _ hc).plain.1 rfl
  refine ⟨?_, ?_⟩
  · rw [single, List.forall_mem_singleton]
    exact ⟨nonempty, fun hc => (numeral _ hc).plain.2.1 rfl⟩
  · exact List.any_eq_false.mpr fun c hc => Bool.not_eq_true _ ▸ (numeral c hc).plain.2.2

theorem Accepts.sturdy {key value kept : String} (h : Accepts key value kept) : Sturdy kept := by
  cases h with
  | default hv => exact sturdy_flag hv
  | privacy => exact sturdy_tier _
  | threshold _ hx finite => exact sturdy_numeral hx finite

theorem Accepts.key_mem {key value kept : String} (h : Accepts key value kept) :
    key ∈ policyKeys := by
  cases h with
  | default => simp [policyKeys]
  | privacy => simp [policyKeys]
  | threshold hk => simp [policyKeys, hk]

def entryText (e : String × String) : List Char := e.1.toList ++ '=' :: e.2.toList

def entryPair (e : String × String) : Pair := (e.1.toList, e.2.toList)

theorem policyKey_plain {key : String} (h : key ∈ policyKeys) :
    key.toList ≠ [] ∧ '_' ∉ key.toList ∧ '=' ∉ key.toList := by
  have all : ∀ k ∈ policyKeys, k.toList ≠ [] ∧ '_' ∉ k.toList ∧ '=' ∉ k.toList := by decide
  exact all key h

theorem pieces_entryText {e : String × String} (h : KeptAs e e) : ∃ v more,
    e.2.toList = v ++ more.flatMap ('_' :: ·) ∧
      Text.pieces '_' (entryText e) = (e.1.toList ++ '=' :: v) :: more ∧
      SpellsPair (e.1.toList ++ '=' :: v) (e.1.toList, v) ∧ ∀ g ∈ more, Continues g := by
  obtain ⟨nonempty, apart, noEquals⟩ := policyKey_plain h.value.key_mem
  obtain ⟨v, more, hpieces⟩ := List.exists_cons_of_ne_nil (Text.pieces_ne_nil '_' e.2.toList)
  obtain ⟨hvalue, hapart⟩ := Text.pieces_eq_iff.mp hpieces
  have fragments := h.value.sturdy.fragments
  rw [hpieces] at fragments
  obtain ⟨hv, hmore⟩ := List.forall_mem_cons.mp fragments
  have hpair : '_' ∉ e.1.toList ++ '=' :: v := by
    have hv' : '_' ∉ v := hapart v List.mem_cons_self
    simp [apart, hv']
  refine ⟨v, more, hvalue, Text.pieces_eq_iff.mpr ⟨?_, ?_⟩, ?_, hmore⟩
  · rw [entryText, hvalue]
    simp
  · exact List.forall_mem_cons.mpr ⟨hpair, fun q hq => hapart q (List.mem_cons_of_mem v hq)⟩
  · exact .pair nonempty hv.nonempty noEquals hv.noEquals

theorem spellsPairs_entries {l : List (String × String)} (h : ∀ e ∈ l, KeptAs e e) :
    SpellsPairs (l.flatMap fun e => Text.pieces '_' (entryText e)) (l.map entryPair) := by
  induction l with
  | nil => exact .nil
  | cons e l ih =>
    obtain ⟨he, hl⟩ := List.forall_mem_cons.mp h
    obtain ⟨v, more, hvalue, hpieces, hpair, hmore⟩ := pieces_entryText he
    rw [List.flatMap_cons, hpieces, List.map_cons, entryPair, hvalue]
    exact .pair hpair hmore (ih hl)

def policyBody (first : String × String) (l : List (String × String)) : List Char :=
  entryText first ++ (l.map entryText).flatMap ('_' :: ·)

section Segment

variable {first : String × String} {l : List (String × String)}

theorem pieces_policyBody : Text.pieces '_' (policyBody first l) =
    (first :: l).flatMap fun e => Text.pieces '_' (entryText e) := by
  rw [policyBody, Text.pieces_joined, ← List.map_cons, List.flatMap_map]

theorem spellsSegment_policy (h : ∀ e ∈ first :: l, KeptAs e e) :
    SpellsSegment ("policy_".toList ++ policyBody first l)
      ((first :: l).map fun e => (true, entryPair e)) := by
  have pairs := spellsPairs_entries h
  rw [← pieces_policyBody] at pairs
  have segment := pairs.segment
  rwa [List.map_map] at segment

theorem policySegment_single (h : ∀ e ∈ first :: l, KeptAs e e) :
    ¬['_', '_'] <:+: "policy_".toList ++ policyBody first l := by
  have text : "policy_".toList ++ policyBody first l =
    "policy".toList ++ '_' :: policyBody first l := rfl
  have start : [] ∉ Text.pieces '_' "policy".toList := by decide
  refine Text.not_double_of_pieces ?_
  rw [text, Text.pieces_append, pieces_policyBody, List.mem_append, not_or]
  refine ⟨start, ?_⟩
  simp only [List.mem_flatMap, not_exists, not_and]
  intro e he empty
  obtain ⟨v, more, _, hpieces, _, hmore⟩ := pieces_entryText (h e he)
  rw [hpieces] at empty
  rcases List.mem_cons.mp empty with empty | empty
  · simp at empty
  · exact (hmore [] empty).nonempty rfl

theorem getLast?_entryText {e : String × String} (h : KeptAs e e) :
    ∃ c, (entryText e).getLast? = some c ∧ Text.isBlank c = false := by
  obtain ⟨fragments, noBlanks⟩ := h.value.sturdy
  cases hlast : e.2.toList.getLast? with
  | none =>
    rw [List.getLast?_eq_none_iff.mp hlast] at fragments
    exact absurd rfl (fragments [] List.mem_cons_self).nonempty
  | some c =>
    have plain := List.any_eq_false.mp noBlanks c (List.mem_of_getLast? hlast)
    refine ⟨c, ?_, Bool.not_eq_true _ ▸ plain⟩
    rw [entryText, List.getLast?_append, List.getLast?_cons, hlast]
    rfl

theorem getLast?_policyBody (h : ∀ e ∈ first :: l, KeptAs e e) :
    ∃ c, (policyBody first l).getLast? = some c ∧ Text.isBlank c = false := by
  unfold policyBody
  induction l generalizing first with
  | nil =>
    rw [List.map_nil, List.flatMap_nil, List.append_nil]
    exact getLast?_entryText (h first List.mem_cons_self)
  | cons e l ih =>
    obtain ⟨c, hc, blank⟩ := ih fun e he => h e (List.mem_cons_of_mem first he)
    refine ⟨c, ?_, blank⟩
    rw [List.map_cons, List.flatMap_cons, List.getLast?_append, List.cons_append,
      List.getLast?_cons, hc]
    rfl

end Segment

/-- A request that a string can say: its parts hold no separator that would part them. -/
structure Request.Tidy (r : Request) : Prop where
  version : r.version.toList ≠ []
  versionSingle : ¬['_', '_'] <:+: r.version.toList ++ ['_']
  policy : ∀ e ∈ r.policy.entries, KeptAs e e
  default : ∃ d, r.policy.get? "default" = some d
  complete : Complete r
  extra : ∀ key v, r.extra.get? key = some v → key = "policy" ∧ v.toList ≠ [] ∧ '=' ∉ v.toList ∧
    ¬['_', '_'] <:+: v.toList ++ ['_']

section Rendered

variable {r : Request}

def givenExtra (r : Request) : List (String × String) :=
  ((r.extra.get? "policy").map fun v => ("policy", v)).toList

theorem toList_render {d : String} (h : r.policy.get? "default" = some d) : r.render.toList =
    stem.toList ++ (r.version.toList ++ ((givenExtra r).map entryText ++
      ["policy_".toList ++ policyBody ("default", d) r.overrides]).flatMap
        fun s => '_' :: '_' :: s) := by
  have entries : String.toList (String.join (r.overrides.map fun e => "_" ++ e.1 ++ "=" ++ e.2)) =
      (r.overrides.map entryText).flatMap ('_' :: ·) := by
    rw [String.toList_join, List.flatMap_map, List.flatMap_map]
    congr 1
    funext e
    simp [entryText]
  have extra : (((r.extra.get? "policy").map fun v => "__policy=" ++ v).getD "").toList =
      ((givenExtra r).map entryText).flatMap fun s => '_' :: '_' :: s := by
    unfold givenExtra
    cases r.extra.get? "policy" with
    | none => rfl
    | some v => simp [entryText]
  simp only [Request.render, h, Option.getD_some, String.toList_append, entries, extra]
  simp [policyBody, entryText]

/-- The entries of a policy, its `default` in front. -/
def rendered (r : Request) (d : String) : List (String × String) := ("default", d) :: r.overrides

theorem mem_rendered {d : String} (hd : r.policy.get? "default" = some d) {e : String × String} :
    e ∈ rendered r d ↔ e ∈ r.policy.entries := by
  have default : ("default", d) ∈ r.policy.entries := SortedMap.get?_eq_some_iff.mp hd
  simp only [rendered, Request.overrides, List.mem_cons, List.mem_filter, decide_eq_true_eq]
  constructor
  · rintro (rfl | h)
    · exact default
    · exact h.1
  · intro h
    by_cases hk : e.1 = "default"
    · have value : r.policy.get? "default" = some e.2 := SortedMap.get?_eq_some_iff.mpr (hk ▸ h)
      rw [hd, Option.some.injEq] at value
      exact Or.inl (Prod.ext hk value.symm)
    · exact Or.inr ⟨h, hk⟩

theorem spellsSegment_extra (h : r.Tidy) : ∀ e ∈ givenExtra r,
    SpellsSegment (entryText e) [(false, entryPair e)] ∧ ¬['_', '_'] <:+: entryText e ++ ['_'] := by
  intro e he
  obtain ⟨v, hv, rfl⟩ : ∃ v, r.extra.get? "policy" = some v ∧ ("policy", v) = e := by
    simpa [givenExtra] using he
  obtain ⟨_, nonempty, noEquals, single⟩ := h.extra "policy" v hv
  have key : "policy".toList ≠ [] ∧ '=' ∉ "policy".toList := by decide
  have pair : SpellsPair (entryText ("policy", v)) (entryPair ("policy", v)) :=
    .pair key.1 nonempty key.2 noEquals
  have start : ¬"policy_".toList <+: entryText ("policy", v) := by
    simp [entryText, List.cons_prefix_cons]
  have apart : String.ofList (entryPair ("policy", v)).1 ∉ policyKeys := by
    simp [entryPair, policyKeys, thresholdKeys]
  have segment := SpellsSegment.bare start pair
  rw [decide_eq_false apart] at segment
  exact ⟨segment, by simpa [entryText, Text.double_infix_cons] using single⟩

theorem Request.Tidy.entries_kept (h : r.Tidy) {d : String}
    (hd : r.policy.get? "default" = some d) : ∀ e ∈ rendered r d, KeptAs e e :=
  fun e he => h.policy e ((mem_rendered hd).mp he)

theorem trimChars_render (h : r.Tidy) {d : String} (hd : r.policy.get? "default" = some d) :
    Text.trimChars r.render.toList = r.render.toList := by
  obtain ⟨c, hc, blank⟩ := getLast?_policyBody (h.entries_kept hd)
  have last : r.render.toList.getLast? = some c := by
    simp only [toList_render hd, List.flatMap_append, List.flatMap_singleton, List.getLast?_append,
      List.getLast?_cons, hc, Option.some_or, Option.getD_some]
  have first : r.render.toList.head? = some 'l' := by
    rw [toList_render hd]
    rfl
  exact Text.trimChars_tight first last (by decide) blank

theorem spells_render (h : r.Tidy) {d : String} (hd : r.policy.get? "default" = some d) :
    Spells r.render r.version.toList (((givenExtra r).map fun e => (false, entryPair e)) ++
      (rendered r d).map fun e => (true, entryPair e)) := by
  have extra := spellsSegment_extra h
  have kept := h.entries_kept hd
  have text := (trimChars_render h hd).trans (toList_render hd)
  have apart : ∀ q ∈ r.version.toList :: (givenExtra r).map entryText,
      ¬['_', '_'] <:+: q ++ ['_'] := by
    refine List.forall_mem_cons.mpr ⟨h.versionSingle, ?_⟩
    exact List.forall_mem_map.mpr fun e he => (extra e he).2
  have cut := Text.cutAtDoubles_joined apart (policySegment_single kept)
  have extras : List.Forall₂ SpellsSegment ((givenExtra r).map entryText)
      ((givenExtra r).map fun e => [(false, entryPair e)]) := by
    rw [List.forall₂_map_left_iff, List.forall₂_map_right_iff]
    exact List.forall₂_same.mpr fun e he => (extra e he).1
  have segments := List.rel_append extras (.cons (spellsSegment_policy kept) .nil)
  have spelled := Spells.string text cut h.version segments
  rwa [List.flatten_append, ← List.flatMap_def, ← List.map_eq_flatMap, List.flatten_singleton]
    at spelled

theorem policyPairs_rendered (d : String) :
    policyPairs (((givenExtra r).map fun e => (false, entryPair e)) ++
      (rendered r d).map fun e => (true, entryPair e)) = rendered r d := by
  simp [policyPairs, entryPair, List.filter_map, Function.comp_def]

theorem extraPairs_rendered (d : String) :
    extraPairs (((givenExtra r).map fun e => (false, entryPair e)) ++
      (rendered r d).map fun e => (true, entryPair e)) = givenExtra r := by
  cases hv : r.extra.get? "policy" <;>
    simp [givenExtra, hv, extraPairs, entryPair, keptExtras, List.filter_map, Function.comp_def]

theorem lastGiven_rendered {d : String} (hd : r.policy.get? "default" = some d) (key : String) :
    lastGiven key (rendered r d) = r.policy.get? key := by
  have others : "default" ∉ r.overrides.map Prod.fst := by
    simp [Request.overrides]
  have nodup : ((rendered r d).map Prod.fst).Nodup :=
    List.nodup_cons.mpr ⟨others, r.policy.nodup_keys.sublist (List.filter_sublist.map _)⟩
  ext value
  rw [lastGiven_of_nodup nodup, mem_rendered hd, SortedMap.get?_eq_some_iff]

theorem ofPairs_rendered (h : r.Tidy) {d : String} (hd : r.policy.get? "default" = some d) :
    Request.ofPairs r.version.toList (rendered r d) (givenExtra r) = r := by
  have policy : SortedMap.ofList (("default", "true") :: rendered r d) = r.policy := by
    refine SortedMap.ext_get? fun key => ?_
    rw [get?_ofList, lastGiven_cons, lastGiven_rendered hd]
    by_cases hk : "default" = key
    · rw [← hk, hd, Option.some_or]
    · rw [if_neg hk, Option.or_none]
  have extra : SortedMap.ofList (givenExtra r) = r.extra := by
    refine SortedMap.ext_get? fun key => ?_
    rw [get?_ofList]
    by_cases hk : key = "policy"
    · subst hk
      cases hv : r.extra.get? "policy" <;> simp [givenExtra, hv, lastGiven]
    · have absent : r.extra.get? key = none :=
        Option.eq_none_iff_forall_ne_some.mpr fun v hv => hk (h.extra key v hv).1
      rw [absent]
      cases hv : r.extra.get? "policy" <;> simp [givenExtra, hv, lastGiven, Ne.symm hk]
  rw [Request.ofPairs, policy, extra, String.ofList_toList]

theorem Request.Tidy.read_render (h : r.Tidy) : read r.render = .ok r := by
  obtain ⟨d, hd⟩ := h.default
  have kept : List.Forall₂ KeptAs (rendered r d) (rendered r d) :=
    List.forall₂_same.mpr (h.entries_kept hd)
  have same := ofPairs_rendered h hd
  rw [← policyPairs_rendered d] at kept
  have read := read_of_spells (spells_render h hd) kept
  rw [policyPairs_rendered, extraPairs_rendered, same] at read
  exact read h.complete

end Rendered

theorem Spells.bare_value {s : String} {version key value : List Char} {items : List (Bool × Pair)}
    (h : Spells s version items) (hp : (false, key, value) ∈ items) :
    value ≠ [] ∧ '=' ∉ value ∧ ¬['_', '_'] <:+: value := by
  cases h with | @string rest _ segments items _ hcut _ hitems
  obtain ⟨_, single⟩ := List.forall_mem_cons.mp hcut.single
  clear hcut
  induction hitems with
  | nil => cases hp
  | @cons segment i segments items hsegment _ ih =>
    obtain ⟨hs, single⟩ := List.forall_mem_cons.mp single
    rw [List.flatten_cons, List.mem_append] at hp
    rcases hp with hp | hp
    · cases hsegment with
      | policy => simp at hp
      | bare _ hpair =>
        obtain ⟨_, rfl⟩ := Prod.mk.inj (List.mem_singleton.mp hp)
        obtain ⟨_, nonempty, _, noEquals⟩ := hpair
        refine ⟨nonempty, noEquals, fun double => hs ?_⟩
        have tail : value <:+ key ++ '=' :: value := ⟨key ++ ['='], by simp⟩
        exact double.trans tail.isInfix
    · exact ih hp single

theorem mem_extraPairs {items : List (Bool × Pair)} {key value : String}
    (h : (key, value) ∈ extraPairs items) :
    key = "policy" ∧ (false, key.toList, value.toList) ∈ items := by
  obtain ⟨⟨inPolicy, k, v⟩, hb, he⟩ := List.mem_map.mp h
  obtain ⟨rfl, rfl⟩ := Prod.mk.inj he
  obtain ⟨hmem, rfl, hkey⟩ : (inPolicy, k, v) ∈ items ∧ inPolicy = false ∧
      String.ofList k = "policy" := by
    simpa [keptExtras] using List.mem_filter.mp hb
  rw [String.toList_ofList, String.toList_ofList]
  exact ⟨hkey, hmem⟩

theorem tidy_of_read {s : String} {r : Request} (h : read s = .ok r)
    (version : r.version.toList.getLast? ≠ some '_')
    (extra : ∀ v, r.extra.get? "policy" = some v → v.toList.getLast? ≠ some '_') : r.Tidy := by
  have policy := entries_kept h
  obtain ⟨text, items, kept, spelled, hkept, complete, rfl⟩ := spells_of_read h
  have same : String.toList (Request.ofPairs text kept (extraPairs items)).version = text :=
    String.toList_ofList
  obtain ⟨hversion, hsingle⟩ : text ≠ [] ∧ ¬['_', '_'] <:+: text := by
    cases spelled with | string _ hcut hversion _
    exact ⟨hversion, hcut.single text List.mem_cons_self⟩
  refine ⟨?_, ?_, policy, ?_, complete, ?_⟩
  · rwa [same]
  · rw [Text.double_infix_concat, not_or]
    rw [same] at version ⊢
    exact ⟨version, hsingle⟩
  · rcases default_known (kept_again hkept) text (extraPairs items) with hd | hd
    · exact ⟨_, hd⟩
    · exact ⟨_, hd⟩
  · intro key v hv
    have given := hv
    rw [Request.ofPairs, get?_ofList] at given
    obtain ⟨rfl, hmem⟩ := mem_extraPairs (lastGiven_mem given)
    obtain ⟨nonempty, noEquals, single⟩ := spelled.bare_value hmem
    refine ⟨rfl, nonempty, noEquals, ?_⟩
    rw [Text.double_infix_concat, not_or]
    exact ⟨extra v hv, single⟩

/-- A request that was read is read again from what it renders as, if neither its version nor its
extra ends in an underscore, which would be taken for a part of the separator behind it. -/
theorem read_render_of_read {s : String} {r : Request} (h : read s = .ok r)
    (version : r.version.toList.getLast? ≠ some '_')
    (extra : ∀ v, r.extra.get? "policy" = some v → v.toList.getLast? ≠ some '_') :
    read r.render = .ok r :=
  (tidy_of_read h version extra).read_render

theorem continued_value_read_again :
    let field :=
      " logos-v_1__policy=a b___x=1__cost=+.5__policy_privacy=cloud_in_eu_by_eu_provider_default=false "
    ∃ r, read field = .ok r ∧ read r.render = .ok r ∧ r.render =
      "logos-v_1__policy=a b__policy_default=false_cost=+.5_privacy=CLOUD_IN_EU_BY_EU_PROVIDER" := by
  intro field
  have looked : ((read field).toOption.map fun r => (r.version, r.extra.get? "policy", r.render)) =
      some ("_1", some "a b",
        "logos-v_1__policy=a b__policy_default=false_cost=+.5_privacy=CLOUD_IN_EU_BY_EU_PROVIDER") := by
    decide +kernel
  obtain ⟨r, hr, parts⟩ := Option.map_eq_some_iff.mp looked
  obtain ⟨version, extra, text⟩ : r.version = "_1" ∧ r.extra.get? "policy" = some "a b" ∧
      r.render = _ := by
    simpa only [Prod.mk.injEq] using parts
  have again := read_render_of_read (eq_ok_of_toOption hr) (by rw [version]; decide) (by
    intro v hv
    obtain rfl := Option.some.inj (extra.symm.trans hv)
    decide)
  exact ⟨r, eq_ok_of_toOption hr, again, text⟩

end ModelString
end InferenceDispatch
