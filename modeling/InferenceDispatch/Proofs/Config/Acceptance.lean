import InferenceDispatch.Config.Settings
import Mathlib.Data.List.Nodup

namespace InferenceDispatch

namespace Config

/-- A configuration an engine is supposed to run with. -/
structure Fit (c : Config) : Prop where
  poll : c.loop.pollIntervalMs ≠ 0
  steepness : c.classifier.steepness.isFinite ∧ 0 < c.classifier.steepness
  weights : ∀ w ∈ [c.scoring.priorityWeight, c.scoring.depthWeight, c.scoring.slotWeight,
    c.scoring.coldStartPenalty], w.isFinite
  memory : c.ollama.totalVramMb ≠ 0
  health : c.health.intervalSecs ≠ 0 ∧ c.health.probeTimeoutSecs ≠ 0
  providers : (c.providers.map ProviderEntry.id).Nodup
  addresses : ∀ p ∈ c.providers, p.kind = .ollama → p.url ≠ none
  models : (c.models.map Descriptor.model).Nodup

/-- A judge that objects to ids it has met, and to items that are wrong in themselves, finds nothing in a
list just when its ids are distinct and every item is right. -/
theorem firstFault?_eq_none_iff {α : Type} {id : α → String} {judge : List String → α → Option Fault}
    {right : α → Prop} (fair : ∀ before a, judge before a = none ↔ id a ∉ before ∧ right a)
    {before : List String} {l : List α} : firstFault? id judge before l = none ↔
      (l.map id).Nodup ∧ ∀ a ∈ l, id a ∉ before ∧ right a := by
  induction l generalizing before with
  | nil => simp [firstFault?]
  | cons a l ih =>
    rw [firstFault?, Option.or_eq_none_iff, fair, ih, List.map_cons, List.nodup_cons, List.forall_mem_cons]
    constructor
    · rintro ⟨ha, nodup, hl⟩
      refine ⟨⟨fun hm => ?_, nodup⟩, ha, fun b hb => ⟨fun hm => ?_, (hl b hb).2⟩⟩
      · obtain ⟨b, hb, hid⟩ := List.mem_map.mp hm
        exact (hl b hb).1 (hid ▸ List.mem_cons_self)
      · exact (hl b hb).1 (List.mem_cons_of_mem _ hm)
    · rintro ⟨⟨ha, nodup⟩, hfirst, hl⟩
      refine ⟨hfirst, nodup, fun b hb => ⟨fun hm => ?_, (hl b hb).2⟩⟩
      rcases List.mem_cons.mp hm with hid | hm
      · exact ha (hid ▸ List.mem_map_of_mem hb)
      · exact (hl b hb).1 hm

theorem providerFault?_eq_none_iff (before : List String) (p : ProviderEntry) :
    providerFault? before p = none ↔ p.id ∉ before ∧ (p.kind = .ollama → p.url ≠ none) := by
  unfold providerFault?
  split
  next known => simp [known]
  next new =>
    split
    next missing => simp [missing]
    next given => simpa [new] using given

theorem check_eq_none_iff {check : Prop} [Decidable check] {f : Fault} {behind : Option Fault} :
    (if check then some f else behind) = none ↔ ¬check ∧ behind = none := by
  split <;> simp [*]

theorem fault?_eq_none_iff {c : Config} : c.fault? = none ↔ c.Fit := by
  have models (before : List String) (d : Descriptor Double) :
      (if d.model ∈ before then some (Fault.duplicateModel d.model) else none) = none ↔
        d.model ∉ before ∧ True := by
    simp
  unfold fault?
  simp only [check_eq_none_iff, Option.or_eq_none_iff, firstFault?_eq_none_iff providerFault?_eq_none_iff,
    firstFault?_eq_none_iff models]
  constructor
  · rintro ⟨poll, steepness, weights, memory, health, ⟨providers, addresses⟩, models, _⟩
    exact ⟨poll, not_not.mp steepness, by simpa using weights, memory, not_or.mp health, providers,
      fun p hp => (addresses p hp).2, models⟩
  · rintro ⟨poll, steepness, weights, memory, health, providers, addresses, models⟩
    refine ⟨poll, not_not.mpr steepness, by simpa using weights, memory, not_or.mpr health,
      ⟨providers, fun p hp => ⟨List.not_mem_nil, addresses p hp⟩⟩, models, by simp⟩

end Config

end InferenceDispatch
