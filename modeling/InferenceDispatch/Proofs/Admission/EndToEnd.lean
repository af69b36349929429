import InferenceDispatch.Proofs.Admission.Constraints
import InferenceDispatch.Proofs.Manager.Provenance

namespace InferenceDispatch

namespace Catalog

/-- The models that are private and cheap enough. -/
def eligible (catalog : Catalog Double) (tier : PrivacyTier) (cost : Double) :
    List (Descriptor Double) :=
  catalog.values.filter fun d => tier.strictness ≤ d.privacy.strictness ∧ cost ≤ d.cost

theorem filter_allows (catalog : Catalog Double) (policy : Policy Double) :
    catalog.values.filter policy.allows = catalog.eligible policy.privacy policy.cost :=
  List.filter_congr fun d _ => by simp [Policy.allows, PrivacyTier.satisfies]

end Catalog

namespace Admission

variable {catalog : Catalog Double} {settings : ClassifierSettings Double} {field : String}
  {priority : Priority} {p : Plan}

theorem perm_rank_classify (exp : Double → Double) (k : Double) (strict : Bool) (catalog : Catalog Double)
    (policy : Policy Double) :
    ((Classified.rank (classify exp k strict catalog policy)).map Classified.descriptor).Perm
      (catalog.eligible policy.privacy policy.cost) := by
  rw [← catalog.filter_allows policy, ← map_descriptor_classify exp k strict]
  exact (List.mergeSort_perm ..).map _

theorem mem_candidates {c : Candidate} (hc : c ∈ p.candidates) :
    ∃ d ∈ p.ranked.map Classified.descriptor, c.model = d.model ∧ c.provider = d.provider := by
  obtain ⟨r, hr, rfl⟩ := List.mem_map.mp hc
  exact ⟨r.descriptor, List.mem_map_of_mem hr, rfl, rfl⟩

variable {α : Type} [OfScientific α] [Add α] [Sub α] [Mul α] [LE α] [LT α]
  [DecidableLE α] [DecidableLT α] {strategy : Strategy α} {limits : ManagerSettings} {start : Time}

/-- The plan of an admitted model string ranks all models of the catalog that are as private and as cheap as
the string asks, each once, and no other, by descending weight and then by id. Whatever a manager is asked
after the plan was handed to it, a result of that ticket names one of these models and its provider. -/
theorem served_within_constraints (starts : ModelString.stem.toList <+: Text.trimChars field.toList)
    (admitted : plan catalog settings field priority = .ok p) :
    let allowed := catalog.eligible (Policy.effectivePrivacy settings.defaultPolicy field)
      (Policy.effectiveCost settings.defaultPolicy field)
    (p.ranked.map Classified.descriptor).Perm allowed ∧
    (catalog.Keyed → (p.ranked.map fun r => r.descriptor.model).Nodup) ∧
    (p.ranked.Pairwise fun a b => totalKey b.weight < totalKey a.weight ∨
      totalKey a.weight = totalKey b.weight ∧ a.descriptor.model ≤ b.descriptor.model) ∧
    (∃ request policy, p.routing = .classified request policy ∧ ∀ r ∈ p.ranked,
      r.weight = softWeight Double.exp settings.steepness settings.strict policy r.descriptor) ∧
    ∀ {earlier later : List (Turn (Clocked Manager) Manager.Call Manager.Answer)}
      {turn turn' : Turn (Clocked Manager) Manager.Call Manager.Answer} {s : Clocked Manager}
      {payload : Payload} {t : Ticket} {r : Result},
      Run (Manager.Call.perform strategy limits) ⟨start, .empty⟩ (earlier ++ turn :: later) s →
      turn.call = .add payload p.candidates → turn.answer = .admitted (.ok t) →
      turn' ∈ later → turn'.answer = .claimed (some (t, r)) →
      ∃ d ∈ allowed, r.key = ⟨d.model, d.provider⟩ := by
  intro allowed
  obtain ⟨request, policy, hread, hpolicy, rfl⟩ := plan_eq_ok starts admitted
  have privacy := Policy.sets_privacy.ofRequest (by decide) hread hpolicy
  have cost := Policy.sets_cost.ofRequest (by decide) hread hpolicy
  have models := perm_rank_classify Double.exp settings.steepness settings.strict catalog policy
  rw [privacy, cost] at models
  refine ⟨models, fun keyed => ?_, ?_, ⟨request, policy, rfl, fun r hr => ?_⟩, ?_⟩
  · have ids := models.map Descriptor.model
    rw [List.map_map] at ids
    exact ids.nodup_iff.mpr (keyed.nodup.sublist (List.filter_sublist.map _))
  · exact (Classified.pairwise_rank _).imp fun h => (Classified.rankedBefore_iff _ _).mp h
  · obtain ⟨d, _, rfl⟩ := List.mem_map.mp (List.mem_mergeSort.mp hr)
    rfl
  · intro earlier later turn turn' s payload t r run hcall hanswer hlater hclaim
    obtain ⟨c, hc, hkey⟩ := Manager.claimed_key_mem run hcall hanswer hlater hclaim
    obtain ⟨d, hd, hmodel, hprovider⟩ := mem_candidates hc
    exact ⟨d, models.mem_iff.mp hd, hkey.trans (by rw [hmodel, hprovider])⟩

/-- A request for a local model is served by the local one of two, though the other has more weight; of its two
costs, the first of which only the other meets, the last counts. -/
theorem served_at_home :
    let catalog := Catalog.ofDescriptors [⟨"near", "home", .onPremises, 0, 0, 0, 0, 1⟩,
      ⟨"far", "abroad", .outsideEu, 1, 1, 1, 1, 1⟩]
    let field := "logos-v1__cost=1__policy_cost=0_privacy=LOCAL "
    ∃ p turns s, plan catalog ⟨1, false, .permissive⟩ field .normal = .ok p ∧
      (p.ranked.map fun r => r.descriptor.model).Nodup ∧
      Run (Manager.Call.perform (.firstCome : Strategy Double) ⟨seconds 60, 1⟩) ⟨0, .empty⟩ turns s ∧
      ∃ turn ∈ turns, ∃ r, turn.answer = .claimed (some (1, r)) ∧ r.key = ⟨"near", "home"⟩ := by
  intro catalog field
  let step := Manager.Call.perform (.firstCome : Strategy Double) ⟨seconds 60, 1⟩
  have starts : ModelString.stem.toList <+: Text.trimChars field.toList :=
    Text.prefix_trimChars (by decide) (by decide)
  have allowed : catalog.eligible (Policy.effectivePrivacy .permissive field)
      (Policy.effectiveCost .permissive field) = [⟨"near", "home", .onPremises, 0, 0, 0, 0, 1⟩] := by
    decide +kernel
  have served : ((plan catalog ⟨1, false, .permissive⟩ field .normal).toOption.bind fun p =>
      (step (.add "" p.candidates) ⟨0, .empty⟩).toOption.bind fun e =>
        (play step [.tick .unguarded, .getResult] e.state).toOption.map fun r =>
          (e.answer.issued, r.1.map fun turn => turn.answer.handed)) = some ([1], [[], [1]]) := by
    decide +kernel
  obtain ⟨p, hp, served⟩ := Option.bind_eq_some_iff.mp served
  obtain ⟨e, he, served⟩ := Option.bind_eq_some_iff.mp served
  obtain ⟨⟨later, s⟩, hlater, served⟩ := Option.map_eq_some_iff.mp served
  obtain ⟨issued, handed⟩ := Prod.mk.inj served
  have run : Run (Manager.Call.perform (.firstCome : Strategy Double) ⟨seconds 60, 1⟩) ⟨0, .empty⟩
      ([] ++ ⟨⟨0, .empty⟩, .add "" p.candidates, e⟩ :: later) s :=
    (Run.start.next (eq_ok_of_toOption he)).append (.of_play (eq_ok_of_toOption hlater))
  have answered : e.answer = .admitted (.ok 1) :=
    Manager.Answer.mem_issued.mp (issued ▸ List.mem_singleton_self 1)
  have claimed : [1] ∈ later.map fun turn => turn.answer.handed := by simp [handed]
  obtain ⟨turn, hturn, hhanded⟩ := List.mem_map.mp claimed
  obtain ⟨r, hclaim⟩ := Manager.Answer.mem_handed.mp (hhanded ▸ List.mem_singleton_self 1)
  obtain ⟨_, once, _, _, result⟩ := served_within_constraints (α := Double) starts (eq_ok_of_toOption hp)
  obtain ⟨d, hd, hkey⟩ := result run rfl answered hturn hclaim
  obtain rfl := List.mem_singleton.mp (allowed ▸ hd)
  exact ⟨p, _, s, eq_ok_of_toOption hp, once (Catalog.keyed_ofDescriptors _), run, turn,
    List.mem_cons_of_mem _ hturn, r, hclaim, hkey⟩

end Admission

end InferenceDispatch
