import InferenceDispatch.Proofs.Admission.Constraints

namespace InferenceDispatch

open ModelString

namespace Policy

/-- A part of a policy is what a model string gives last for its key, as that is read, or else what
stands in the policy that the string builds on. -/
structure InEffect {β : Type} (key : String) (read? : String → Option β) (base value : β)
    (field : String) : Prop where
  stated : ∀ v, lastGiven key (given field) = some v → read? v = some value
  unstated : lastGiven key (given field) = none → value = base

def finiteNumeral? (v : String) : Option Double := (readDouble? v.toList).filter Double.isFinite

/-- Every threshold of a policy is in effect. -/
structure StatedBy (field : String) (defaults p : Policy Double) : Prop where
  privacy : InEffect "privacy" PrivacyTier.read? (basis defaults field).privacy p.privacy field
  thresholds : ∀ t ∈ thresholds,
    InEffect t.1 finiteNumeral? (t.2 (basis defaults field)) (t.2 p) field

theorem override?_of_accepts {key v w : String} (h : Accepts key v w) (overrides : key ≠ "default")
    (p : Policy Double) : ∃ p', override? p key w = some p' := by
  cases h with
  | default => exact absurd rfl overrides
  | privacy =>
    rw [override?, PrivacyTier.read?_name]
    exact ⟨_, rfl⟩
  | threshold hk hx =>
    simp only [thresholdKeys, List.mem_cons, List.not_mem_nil, or_false] at hk
    rcases hk with rfl | rfl | rfl | rfl
    all_goals
      rw [override?, hx]
      exact ⟨_, rfl⟩

theorem foldlM_of_accepts {l : List (String × String)}
    (h : ∀ e ∈ l, Accepts e.1 e.2 e.2 ∧ e.1 ≠ "default") (base : Policy Double) :
    ∃ p, l.foldlM (fun p e => ((override? p e.1 e.2).map Except.ok).getD
      (.error (Fault.invalidValue e.1 e.2))) base = .ok p := by
  induction l generalizing base with
  | nil => exact ⟨base, rfl⟩
  | cons e l ih =>
    obtain ⟨⟨accepted, overrides⟩, hl⟩ := List.forall_mem_cons.mp h
    obtain ⟨next, hnext⟩ := override?_of_accepts accepted overrides base
    obtain ⟨p, hp⟩ := ih hl next
    refine ⟨p, ?_⟩
    rw [List.foldlM_cons, hnext]
    exact hp

theorem ofRequest_of_read {field : String} {r : Request} (hr : ModelString.read field = .ok r)
    (defaults : Policy Double) : ∃ p, ofRequest defaults r = .ok p := by
  refine foldlM_of_accepts (fun e he => ?_) _
  obtain ⟨hmem, overrides⟩ := List.mem_filter.mp he
  exact ⟨(entries_kept hr e hmem).value, of_decide_eq_true overrides⟩

variable {β : Type} {key : String} {read? read?' : String → Option β} {part : Policy Double → β}

theorem Sets.inEffect (h : Sets key read? part) (overrides : key ≠ "default")
    (readable : ∀ {v w}, acceptedValue? key v = some w → ∃ x, read? v = some x ∧ read?' v = some x)
    {defaults p : Policy Double} {field : String} {r : Request}
    (hr : ModelString.read field = .ok r) (hp : Policy.ofRequest defaults r = .ok p) :
    InEffect key read?' (part (basis defaults field)) (part p) field where
  stated := by
    intro v hv
    obtain ⟨w, hw⟩ := (keeps_read hr).accepted_last hv
    obtain ⟨x, hx, hx'⟩ := readable hw
    rw [h.ofRequest overrides hr hp, effective, hv, Option.bind_some, hx, hx', Option.getD_some]
  unstated := by
    intro absent
    rw [h.ofRequest overrides hr hp, effective, absent, Option.bind_none, Option.getD_none]

theorem statedBy_of_read {field : String} {r : Request} {defaults p : Policy Double}
    (hr : ModelString.read field = .ok r) (hp : ofRequest defaults r = .ok p) :
    StatedBy field defaults p where
  privacy := by
    refine sets_privacy.inEffect (by decide) (fun {v w} h => ?_) hr hp
    obtain ⟨t, ht, _⟩ : ∃ t, PrivacyTier.read? v = some t ∧ t.name = w := by
      simpa [acceptedValue?] using h
    exact ⟨t, ht, ht⟩
  thresholds := by
    intro t ht
    have hkey := threshold_key ht
    refine (sets_threshold ht).inEffect (threshold_apart hkey).1 (fun {v w} h => ?_) hr hp
    obtain ⟨x, hx, finite⟩ := (Option.any_eq_true _ _).mp (acceptedValue?_threshold hkey h).1
    exact ⟨x, hx, by rw [finiteNumeral?, hx, Option.filter_some, if_pos finite]⟩

end Policy

namespace Admission

variable {catalog : Catalog Double} {settings : ClassifierSettings Double} {field : String}
  {priority : Priority} {r : Request} {q : Policy Double}

theorem plan_of_read (hr : ModelString.read field = .ok r)
    (hq : Policy.ofRequest settings.defaultPolicy r = .ok q) :
    plan catalog settings field priority = .ok ⟨.classified r q, priority,
      Classified.rank (classify Double.exp settings.steepness settings.strict catalog q)⟩ := by
  have starts : stem.toList <+: Text.trimChars field.toList := by
    obtain ⟨_, _, _, spelled, _⟩ := spells_of_read hr
    cases spelled with | string htext
    exact ⟨_, htext.symm⟩
  simp only [plan, isModelString_trim starts, if_pos, read_trim, hr]
  change (Policy.ofRequest settings.defaultPolicy r >>= _) = _
  rw [hq]
  rfl

/-- Whatever a string that is read leaves to the default policy or states itself, it amounts to a
policy that says the same, and is admitted with it; so a model string is refused only where it is
not read. -/
theorem accepted_as_stated {field : String} {r : Request} (hr : ModelString.read field = .ok r)
    (defaults : Policy Double) : ∃ q, Policy.ofRequest defaults r = .ok q ∧
      Policy.StatedBy field defaults q ∧
      ∀ (catalog : Catalog Double) (settings : ClassifierSettings Double) (priority : Priority),
        settings.defaultPolicy = defaults → plan catalog settings field priority =
          .ok ⟨.classified r q, priority, Classified.rank
            (classify Double.exp settings.steepness settings.strict catalog q)⟩ := by
  obtain ⟨q, hq⟩ := Policy.ofRequest_of_read hr defaults
  refine ⟨q, hq, Policy.statedBy_of_read hr hq, fun catalog settings priority same => ?_⟩
  exact plan_of_read hr (same ▸ hq)

/-- A cost that is given twice, a tier in small letters and a latency that the default policy would
have set, had it not been declined. -/
theorem stated_over_declined_default :
    let field := "logos-v1__cost=9__policy_cost=-0.5e1_default=false_privacy=cloud_in_eu_by_eu_provider"
    let defaults : Policy Double := ⟨.onPremises, 1, 2, 3, 4⟩
    ∃ r q p, ModelString.read field = .ok r ∧ Policy.ofRequest defaults r = .ok q ∧
      q.privacy = .euByEu ∧ q.cost = -5 ∧ q.latency = 0 ∧
      plan (.ofDescriptors []) ⟨1, false, defaults⟩ field .normal = .ok p := by
  intro field defaults
  have read : (ModelString.read field).toOption.isSome = true := by decide +kernel
  obtain ⟨r, hr⟩ := Option.isSome_iff_exists.mp read
  obtain ⟨q, hq, stated, admitted⟩ := accepted_as_stated (eq_ok_of_toOption hr) defaults
  obtain ⟨declined, tierGiven, costGiven, latencyGiven⟩ :
      lastGiven "default" (given field) = some "false" ∧
      lastGiven "privacy" (given field) = some "cloud_in_eu_by_eu_provider" ∧
      lastGiven "cost" (given field) = some "-0.5e1" ∧
      lastGiven "latency" (given field) = none := by
    decide +kernel
  have base : Policy.basis defaults field = Policy.permissive := by
    rw [Policy.basis, declined]
    rfl
  have privacy := stated.privacy.stated _ tierGiven
  have cost := (stated.thresholds ("cost", Policy.cost) (by simp [Policy.thresholds])).stated
    _ costGiven
  have latency := (stated.thresholds ("latency", Policy.latency)
    (by simp [Policy.thresholds])).unstated latencyGiven
  rw [base] at latency
  have tier : PrivacyTier.read? "cloud_in_eu_by_eu_provider" = some .euByEu := by decide +kernel
  have number : Policy.finiteNumeral? "-0.5e1" = some (-5) := by decide +kernel
  exact ⟨r, q, _, eq_ok_of_toOption hr, hq, Option.some.inj (privacy.symm.trans tier),
    Option.some.inj (cost.symm.trans number), latency, admitted (.ofDescriptors []) _ .normal rfl⟩

end Admission

end InferenceDispatch
