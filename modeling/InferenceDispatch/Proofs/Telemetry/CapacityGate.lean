import InferenceDispatch.Proofs.Engine.Wiring
import InferenceDispatch.Proofs.Scheduler.Choice
import InferenceDispatch.Proofs.Telemetry.Observation

namespace InferenceDispatch

namespace Config

/-- The names under which the Azure providers deploy a model, in the order of the providers. -/
def deployedAs (c : Config) (model : String) : List String :=
  (c.providers.filter fun p => p.kind = .azure).filterMap fun p => p.deployments.get? model

end Config

namespace Azure

theorem get?_foldl_deploy (a : Azure) (provider : String) {l : List (String × String)}
    (nodup : (l.map Prod.fst).Nodup) (model : String) :
    (l.foldl (fun a e => a.deploy e.1 ⟨provider, e.2⟩) a).deployments.get? model =
      (((l.find? fun e => e.1 = model).map fun e => (⟨provider, e.2⟩ : Deployment)).or
        (a.deployments.get? model)) := by
  have write (a : Azure) (e : String × String) (k : String) :
      (a.deploy e.1 ⟨provider, e.2⟩).deployments.get? k =
        if k = e.1 then some (⟨provider, e.2⟩ : Deployment) else a.deployments.get? k :=
    Table.get?_insert ..
  exact lookup_foldl (fun a k => a.deployments.get? k) write nodup a model

theorem settings_foldl_deploy (a : Azure) (provider : String) (l : List (String × String)) :
    (l.foldl (fun a e => a.deploy e.1 ⟨provider, e.2⟩) a).threshold = a.threshold ∧
      (l.foldl (fun a e => a.deploy e.1 ⟨provider, e.2⟩) a).limits = a.limits := by
  induction l generalizing a with
  | nil => exact ⟨rfl, rfl⟩
  | cons e l ih => exact ih (a.deploy e.1 ⟨provider, e.2⟩)

end Azure

namespace Engine

def noted (e : Engine) (notes : List (Time × Azure.Note)) : Engine :=
  { e with facades := { e.facades with azure := e.facades.azure.noteAll notes } }

section Provider

variable (ollama : OllamaSettings) (f : Facades) (p : ProviderEntry)

theorem azure_addProvider :
    (addProvider ollama f p).azure.threshold = f.azure.threshold ∧
      (addProvider ollama f p).azure.limits = f.azure.limits := by
  unfold addProvider
  cases p.kind with
  | azure => exact Azure.settings_foldl_deploy f.azure p.id p.deployments.entries
  | ollama => exact ⟨rfl, rfl⟩

theorem name_addProvider (model : String) :
    ((addProvider ollama f p).azure.deployments.get? model).map Deployment.name =
      (if p.kind = .azure then p.deployments.get? model else none).or
        ((f.azure.deployments.get? model).map Deployment.name) := by
  unfold addProvider
  cases p.kind with
  | azure =>
    refine (congrArg (Option.map Deployment.name) (Azure.get?_foldl_deploy f.azure p.id
      p.deployments.nodup_keys model)).trans ?_
    rw [SortedMap.get?]
    cases p.deployments.entries.find? fun e => e.1 = model <;> rfl
  | ollama => rfl

end Provider

section Providers

variable (ollama : OllamaSettings) (providers : List ProviderEntry) (f : Facades)

theorem azure_addProviders :
    (providers.foldl (addProvider ollama) f).azure.threshold = f.azure.threshold ∧
      (providers.foldl (addProvider ollama) f).azure.limits = f.azure.limits := by
  induction providers generalizing f with
  | nil => exact ⟨rfl, rfl⟩
  | cons p providers ih =>
    obtain ⟨ht, hl⟩ := ih (addProvider ollama f p)
    obtain ⟨ht', hl'⟩ := azure_addProvider ollama f p
    exact ⟨ht.trans ht', hl.trans hl'⟩

/-- The last provider that deploys a model names its deployment. -/
theorem name_addProviders (model : String) :
    ((providers.foldl (addProvider ollama) f).azure.deployments.get? model).map Deployment.name =
      ((providers.filter fun p => p.kind = .azure).filterMap fun p =>
        p.deployments.get? model).getLast?.or
          ((f.azure.deployments.get? model).map Deployment.name) := by
  induction providers generalizing f with
  | nil => rfl
  | cons p providers ih =>
    rw [List.foldl_cons, ih (addProvider ollama f p), name_addProvider, List.filter_cons]
    by_cases hk : p.kind = .azure
    · simp only [hk, decide_true, ↓reduceIte, List.filterMap_cons]
      cases hd : p.deployments.get? model with
      | none => rfl
      | some d =>
        rw [List.getLast?_cons, ← Option.or_assoc]
        simp [Option.or_some]
    · simp [hk]

end Providers

/-- What the gate of a built engine asks about a model at an Azure provider: the deployment at this provider
that has the name which the last Azure provider to deploy the model gave it. -/
theorem hasCapacity_noted {c : Config} {e : Engine} (built : ofConfig c = .ok e)
    (accepted : c.fault? = none) {p : ProviderEntry} (hp : p ∈ c.providers) (hk : p.kind = .azure)
    (model : String) (notes : List (Time × Azure.Note)) :
    (e.noted notes).facades.hasCapacity model p.id = false ↔
      Azure.Exhausted c.capacityThreshold ⟨p.id, (c.deployedAs model).getLast?.getD model⟩ notes := by
  have fit := Config.fault?_eq_none_iff.mp accepted
  have hfacades : e.facades = facadesOf c :=
    congrArg Engine.facades (Except.ok.inj (built.symm.trans (ofConfig_of_fit fit)))
  obtain ⟨threshold, limits⟩ := azure_addProviders c.ollama c.providers
    (.ofAzure (.ofThreshold c.capacityThreshold))
  have route := (entered_facadesOf fit).azure p hp hk
  have name := name_addProviders c.ollama c.providers
    (.ofAzure (.ofThreshold c.capacityThreshold)) model
  rw [← facadesOf, ← hfacades] at threshold limits name
  rw [← hfacades] at route
  have asked : (e.noted notes).facades.hasCapacity model p.id = (((e.facades.azure.noteAll notes).capacity
      ⟨p.id, (e.facades.azure.noteAll notes).deploymentOf model⟩).hasCapacity) := by
    rw [Facades.hasCapacity, Facades.answering?, noted, route]
    rfl
  have used : (e.facades.azure.noteAll notes).deploymentOf model =
      (c.deployedAs model).getLast?.getD model := by
    rw [Azure.deploymentOf, (e.facades.azure.settings_noteAll notes).2, name]
    exact congrArg (Option.getD · model) (Option.or_none ..)
  have unobserved : ∀ d, e.facades.azure.limits.get? d = none := fun d => by rw [limits]; rfl
  rw [asked, used, Azure.capacity_noteAll (unobserved _), threshold]
  rfl

theorem not_exhausted_of_other {threshold : Nat} {d d' : Deployment} (h : d ≠ d') (now : Time)
    (requests tokens : Option Nat) :
    ¬Azure.Exhausted threshold d' [(now, .counts d requests tokens)] := by
  simp [Azure.Exhausted, Azure.lastGiven, Azure.Note.deployment, h]

/-- An accepted configuration builds an engine. Its gate refuses a model at an Azure provider when the
deployment there is exhausted whose name the last Azure provider to deploy the model gave it. That is the
deployment configured for the provider if and only if the two names are the same; then no pass picks the model
at the provider while its deployment is exhausted. -/
theorem gate_asks_last_deployment {c : Config} (accepted : c.fault? = none) {p : ProviderEntry}
    (hp : p ∈ c.providers) (hk : p.kind = .azure) {model d : String}
    (hd : p.deployments.get? model = some d) :
    ∃ e, ofConfig c = .ok e ∧ ∃ used, (c.deployedAs model).getLast? = some used ∧
      (∀ notes, (e.noted notes).facades.hasCapacity model p.id = false ↔
        Azure.Exhausted c.capacityThreshold ⟨p.id, used⟩ notes) ∧
      ((∀ notes, (e.noted notes).facades.hasCapacity model p.id = false ↔
        Azure.Exhausted c.capacityThreshold ⟨p.id, d⟩ notes) ↔ used = d) ∧
      (used = d → ∀ notes, Azure.Exhausted c.capacityThreshold ⟨p.id, d⟩ notes →
        ∀ (q : Queue) (w : WorkTable) (picked : Entry), q.Filed →
          e.settings.strategy.choose (((e.noted notes).withQueue q).gate) w q = some picked →
            picked.key ≠ ⟨model, p.id⟩) := by
  have fit := Config.fault?_eq_none_iff.mp accepted
  obtain ⟨e, built⟩ : ∃ e, ofConfig c = .ok e := ⟨_, ofConfig_of_fit fit⟩
  have asks : e.settings.asksFacades = true :=
    congrArg (fun e => e.settings.asksFacades) (Except.ok.inj (built.symm.trans (ofConfig_of_fit fit)))
  have deploys : d ∈ c.deployedAs model :=
    List.mem_filterMap.mpr ⟨p, List.mem_filter.mpr ⟨hp, decide_eq_true hk⟩, hd⟩
  obtain ⟨used, hused⟩ : ∃ used, (c.deployedAs model).getLast? = some used :=
    Option.isSome_iff_exists.mp (List.getLast?_isSome.mpr (List.ne_nil_of_mem deploys))
  have gate : ∀ notes, (e.noted notes).facades.hasCapacity model p.id = false ↔
      Azure.Exhausted c.capacityThreshold ⟨p.id, used⟩ notes := by
    intro notes
    rw [hasCapacity_noted built accepted hp hk, hused, Option.getD_some]
  refine ⟨e, built, used, hused, gate, ⟨fun right => ?_, ?_⟩, ?_⟩
  · -- counts of zero for the configured deployment tell the two apart
    by_contra hne
    have other : (⟨p.id, d⟩ : Deployment) ≠ ⟨p.id, used⟩ := fun h => hne (Deployment.mk.inj h).2.symm
    have none_left : Azure.Exhausted c.capacityThreshold ⟨p.id, d⟩
        [(0, .counts ⟨p.id, d⟩ (some 0) none)] := by
      refine Or.inl ⟨0, ?_, Nat.zero_le _⟩
      simp [Azure.lastGiven, Azure.Note.deployment, Azure.Note.requests]
    exact not_exhausted_of_other other 0 (some 0) none ((gate _).mp ((right _).mpr none_left))
  · rintro rfl
    exact gate
  · rintro rfl notes exhausted q w picked filed hpick hkey
    have hgate : ((e.noted notes).withQueue q).gate = (e.noted notes).facades.gate q := if_pos asks
    rw [hgate] at hpick
    obtain ⟨_, eligible⟩ := Strategy.mem_heads filed (Strategy.choose_mem hpick)
    have admits : (e.noted notes).facades.hasCapacity picked.key.model picked.key.provider = true :=
      (Bool.and_eq_true_iff.mp eligible).2
    rw [hkey, (gate notes).mpr exhausted] at admits
    cases admits

/-- Two providers with models of their own: each is asked for its own deployment. -/
theorem gate_asks_own_deployment :
    let c : Config := { Config.standard with providers :=
      [⟨"east", .azure, none, .ofList [("m", "m-east")]⟩,
        ⟨"west", .azure, none, .ofList [("n", "n-west")]⟩] }
    ∃ e, ofConfig c = .ok e ∧
      (e.noted [(0, .counts ⟨"east", "m-east"⟩ none (some 10))]).facades.hasCapacity "m" "east" = false := by
  intro c
  have accepted : c.fault? = none := by decide +kernel
  have deployed : (SortedMap.ofList [("m", "m-east")]).get? "m" = some "m-east" := by decide
  obtain ⟨e, built, used, hused, gate, _⟩ :=
    gate_asks_last_deployment accepted List.mem_cons_self rfl deployed
  have last : (c.deployedAs "m").getLast? = some "m-east" := by decide
  obtain rfl : "m-east" = used := Option.some.inj (last.symm.trans hused)
  exact ⟨e, built, (gate _).mpr (Or.inr ⟨10, by decide, by decide⟩)⟩

/-- Two providers that deploy one model under different names: the gate asks the first for a deployment that
the second has, and lets work through to one that is exhausted. -/
theorem gate_asks_wrong_deployment :
    let c : Config := { Config.standard with providers :=
      [⟨"east", .azure, none, .ofList [("m", "m-east")]⟩,
        ⟨"west", .azure, none, .ofList [("m", "m-west")]⟩] }
    c.fault? = none ∧ ∃ e, ofConfig c = .ok e ∧
      Azure.Exhausted c.capacityThreshold ⟨"east", "m-east"⟩
        [(0, .counts ⟨"east", "m-east"⟩ (some 0) none)] ∧
      (e.noted [(0, .counts ⟨"east", "m-east"⟩ (some 0) none)]).facades.hasCapacity "m" "east" = true := by
  intro c
  have accepted : c.fault? = none := by decide +kernel
  have last : (c.deployedAs "m").getLast? = some "m-west" := by decide
  obtain ⟨e, built⟩ : ∃ e, ofConfig c = .ok e :=
    ⟨_, ofConfig_of_fit (Config.fault?_eq_none_iff.mp accepted)⟩
  have other : (⟨"east", "m-east"⟩ : Deployment) ≠ ⟨"east", "m-west"⟩ := by decide
  refine ⟨accepted, e, built, Or.inl ⟨0, by decide, by decide⟩, ?_⟩
  refine eq_true_of_ne_false fun full => ?_
  rw [hasCapacity_noted built accepted List.mem_cons_self rfl, last] at full
  exact not_exhausted_of_other other 0 (some 0) none full

end Engine

end InferenceDispatch
