import InferenceDispatch.Config.Layers
import InferenceDispatch.Proofs.Runs
import Mathlib.Data.Option.Basic

namespace InferenceDispatch

/-- The value of a field under layers that may give one, the upper ones first: the first layer that gives a value
has the say, and without any the value stays what it was. -/
inductive Prevails {α : Type} (before : α) : (layers : List (α → Prop)) → (now : α) → Prop where
  | kept : Prevails before [] before
  | given {gives : α → Prop} {layers : List (α → Prop)} {v : α} (h : gives v) : Prevails before (gives :: layers) v
  | passed {gives : α → Prop} {layers : List (α → Prop)} {v : α} (silent : ∀ w, ¬gives w)
      (h : Prevails before layers v) : Prevails before (gives :: layers) v

theorem Prevails.getD {α : Type} {before v : α} {o : Option α} {gives : α → Prop} {layers : List (α → Prop)}
    (reads : ∀ w, o = some w ↔ gives w) (h : Prevails before layers v) :
    Prevails before (gives :: layers) (o.getD v) := by
  cases o with
  | none => exact .passed (fun w hw => Option.some_ne_none w ((reads w).mpr hw).symm) h
  | some w => exact .given ((reads w).mp rfl)

structure Layer where
  strategy : Option StrategyKind
  pollIntervalMs : Option Nat
  resultLifetimeSecs : Option Nat
  capacityThreshold : Option Nat
  totalVramMb : Option Nat
  healthIntervalSecs : Option Nat
  source : Option ConfigSource

/-- One layer laid onto another one: what the upper gives, and else what the lower gives. -/
def Layer.onto (upper lower : Layer) : Layer where
  strategy := upper.strategy.or lower.strategy
  pollIntervalMs := upper.pollIntervalMs.or lower.pollIntervalMs
  resultLifetimeSecs := upper.resultLifetimeSecs.or lower.resultLifetimeSecs
  capacityThreshold := upper.capacityThreshold.or lower.capacityThreshold
  totalVramMb := upper.totalVramMb.or lower.totalVramMb
  healthIntervalSecs := upper.healthIntervalSecs.or lower.healthIntervalSecs
  source := upper.source.or lower.source

theorem Layer.onto_self (l : Layer) : l.onto l = l := by
  simp only [onto, Option.or_self]

namespace Config

def under (c : Config) (l : Layer) : Config :=
  { c with
    loop := { c.loop with
      strategy := l.strategy.getD c.loop.strategy
      pollIntervalMs := l.pollIntervalMs.getD c.loop.pollIntervalMs
      resultLifetimeSecs := l.resultLifetimeSecs.getD c.loop.resultLifetimeSecs }
    capacityThreshold := l.capacityThreshold.getD c.capacityThreshold
    ollama := { c.ollama with totalVramMb := l.totalVramMb.getD c.ollama.totalVramMb }
    health := { c.health with intervalSecs := l.healthIntervalSecs.getD c.health.intervalSecs }
    source := l.source.getD c.source }

theorem under_under (c : Config) (lower upper : Layer) : (c.under lower).under upper = c.under (upper.onto lower) := by
  simp only [under, Layer.onto, Option.getD_or]

/-- The same configuration, but for the fields that a layer can give. -/
structure SameBesides (c' c : Config) : Prop where
  defaultSlots : c'.loop.defaultSlots = c.loop.defaultSlots
  scoring : c'.scoring = c.scoring
  classifier : c'.classifier = c.classifier
  refreshInterval : c'.ollama.refreshIntervalMs = c.ollama.refreshIntervalMs
  requestTimeout : c'.ollama.requestTimeoutMs = c.ollama.requestTimeoutMs
  probeTimeout : c'.health.probeTimeoutSecs = c.health.probeTimeoutSecs
  removeAfter : c'.health.removeAfterSecs = c.health.removeAfterSecs
  providers : c'.providers = c.providers
  models : c'.models = c.models
  fromFile : c'.fromFile = c.fromFile

theorem sameBesides_under (c : Config) (l : Layer) : (c.under l).SameBesides c :=
  ⟨rfl, rfl, rfl, rfl, rfl, rfl, rfl, rfl, rfl, rfl⟩

end Config

theorem StrategyKind.read?_eq_some_iff {s : String} {k : StrategyKind} :
    read? s = some k ↔ Text.lower (Text.trim s) = k.name := by
  unfold read? ofName?
  generalize Text.lower (Text.trim s) = name
  constructor
  · intro found
    exact (of_decide_eq_true (List.find?_some (p := fun k : StrategyKind => decide (k.name = name)) found)).symm
  · rintro rfl
    cases k <;> rfl

namespace Environment

def Names (env : Environment) (name : String) (k : StrategyKind) : Prop :=
  ∃ raw, env name = some raw ∧ Text.lower (Text.trim raw) = k.name

def Spells (env : Environment) (name : String) (n : Nat) : Prop :=
  ∃ raw, env name = some raw ∧ Whole.SpellsWord (Text.trim raw).toList n

def counts : List String :=
  ["LOGOS_POLL_INTERVAL_MS", "LOGOS_RESULT_TTL_SECS", "LOGOS_AZURE_CAPACITY_THRESHOLD",
    "LOGOS_OLLAMA_TOTAL_VRAM_MB", "LOGOS_HEALTH_INTERVAL_SECS"]

/-- A variable is one of those that are looked at, and what it holds can be read. -/
inductive Legible (env : Environment) : (name : String) → Prop where
  | strategy {k : StrategyKind} (h : env.Names "LOGOS_SCHEDULER" k) : Legible env "LOGOS_SCHEDULER"
  | count {name : String} {n : Nat} (listed : name ∈ counts) (h : env.Spells name n) : Legible env name

/-- The environment without one of its variables. -/
def unset (env : Environment) (name : String) : Environment := fun other => if other = name then none else env other

def touched (env : Environment) : Bool :=
  (env.strategy? "LOGOS_SCHEDULER").isSome || counts.any fun name => (env.count? name).isSome

def layer (env : Environment) : Layer where
  strategy := env.strategy? "LOGOS_SCHEDULER"
  pollIntervalMs := env.count? "LOGOS_POLL_INTERVAL_MS"
  resultLifetimeSecs := env.count? "LOGOS_RESULT_TTL_SECS"
  capacityThreshold := env.count? "LOGOS_AZURE_CAPACITY_THRESHOLD"
  totalVramMb := env.count? "LOGOS_OLLAMA_TOTAL_VRAM_MB"
  healthIntervalSecs := env.count? "LOGOS_HEALTH_INTERVAL_SECS"
  source := if env.touched then some .environment else none

variable {env : Environment} {name : String}

theorem strategy?_eq_some_iff {k : StrategyKind} : env.strategy? name = some k ↔ env.Names name k := by
  simp only [strategy?, Option.bind_eq_some_iff, StrategyKind.read?_eq_some_iff, Names]

theorem count?_eq_some_iff {n : Nat} : env.count? name = some n ↔ env.Spells name n := by
  simp only [count?, Option.bind_eq_some_iff, Whole.readWord?_eq_some_iff, Spells]

theorem legible_iff : env.Legible name ↔ (name = "LOGOS_SCHEDULER" ∧ (env.strategy? name).isSome) ∨
    name ∈ counts ∧ (env.count? name).isSome := by
  simp only [Option.isSome_iff_exists, strategy?_eq_some_iff, count?_eq_some_iff]
  constructor
  · rintro (⟨h⟩ | ⟨listed, h⟩)
    · exact Or.inl ⟨rfl, _, h⟩
    · exact Or.inr ⟨listed, _, h⟩
  · rintro (⟨rfl, _, h⟩ | ⟨listed, _, h⟩)
    · exact .strategy h
    · exact .count listed h

theorem touched_iff : env.touched = true ↔ ∃ name, env.Legible name := by
  simp only [touched, Bool.or_eq_true, List.any_eq_true, legible_iff, exists_or, exists_eq_left]

theorem source_layer_eq_some_iff {s : ConfigSource} :
    env.layer.source = some s ↔ s = .environment ∧ ∃ name, env.Legible name := by
  rw [← touched_iff]
  simp only [layer]
  split
  next h => simp [h, eq_comm]
  next h => simp [h]

theorem bind_unset {β : Type} {read : String → Option β} {other : String}
    (unread : other = name → (env other).bind read = none) :
    (env.unset name other).bind read = (env other).bind read := by
  unfold unset
  split
  next same => rw [unread same, Option.bind_none]
  next => rfl

theorem strategy?_unset (illegible : ¬env.Legible name) :
    (env.unset name).strategy? "LOGOS_SCHEDULER" = env.strategy? "LOGOS_SCHEDULER" := by
  refine bind_unset fun same => Option.eq_none_iff_forall_ne_some.mpr fun k hk => ?_
  subst same
  exact illegible (.strategy (strategy?_eq_some_iff.mp hk))

theorem count?_unset (illegible : ¬env.Legible name) {other : String} (listed : other ∈ counts) :
    (env.unset name).count? other = env.count? other := by
  refine bind_unset fun same => Option.eq_none_iff_forall_ne_some.mpr fun n hn => ?_
  subst same
  exact illegible (.count listed (count?_eq_some_iff.mp hn))

theorem layer_unset (illegible : ¬env.Legible name) : (env.unset name).layer = env.layer := by
  have strategy := strategy?_unset illegible
  have count : ∀ other ∈ counts, (env.unset name).count? other = env.count? other :=
    fun _ listed => count?_unset illegible listed
  simp only [counts, List.forall_mem_cons, List.not_mem_nil, false_implies, implies_true, and_true] at count
  obtain ⟨poll, lifetime, threshold, memory, interval⟩ := count
  have touched : (env.unset name).touched = env.touched := by
    simp only [touched, counts, List.any_cons, List.any_nil, strategy, poll, lifetime, threshold, memory, interval]
  rw [layer, strategy, poll, lifetime, threshold, memory, interval, touched]
  rfl

end Environment

namespace Overrides

def layer (o : Overrides) : Layer where
  strategy := o.strategy
  pollIntervalMs := o.pollInterval.map fun t => min (t / 1000) Whole.maxWord
  resultLifetimeSecs := none
  capacityThreshold := none
  totalVramMb := none
  healthIntervalSecs := o.healthInterval.map fun t => t / 1000000
  source := if o = ⟨none, none, none⟩ then none else some .commandLine

theorem isEmpty_iff {o : Overrides} : o.isEmpty = true ↔ o = ⟨none, none, none⟩ := by
  obtain ⟨strategy, poll, interval⟩ := o
  simp [isEmpty, and_assoc]

theorem source_layer_eq_some_iff {o : Overrides} {s : ConfigSource} :
    o.layer.source = some s ↔ s = .commandLine ∧ o ≠ ⟨none, none, none⟩ := by
  simp only [layer]
  split
  next h => simp [h]
  next h => simp [h, eq_comm]

end Overrides

namespace Config

theorem withEnvironment_eq_under (c : Config) (env : Environment) : c.withEnvironment env = c.under env.layer := by
  have source : (if env.touched then some ConfigSource.environment else none).getD c.source =
      if env.touched then .environment else c.source := by
    split <;> rfl
  simp only [under, Environment.layer, source]
  rfl

theorem withOverrides_eq_under (c : Config) (o : Overrides) : c.withOverrides o = c.under o.layer := by
  have source : (if o.isEmpty then c.source else .commandLine) =
      (if o = ⟨none, none, none⟩ then none else some ConfigSource.commandLine).getD c.source := by
    simp only [Overrides.isEmpty_iff]
    split <;> rfl
  have poll (loop : LoopSettings) : (o.pollInterval.map loop.withPollInterval).getD loop = { loop with
      pollIntervalMs := (o.pollInterval.map fun t => min (t / 1000) Whole.maxWord).getD loop.pollIntervalMs } := by
    cases o.pollInterval <;> rfl
  simp only [withOverrides, under, Overrides.layer, source, poll]
  rfl

theorem withEnvironment_twice (c : Config) (env : Environment) :
    (c.withEnvironment env).withEnvironment env = c.withEnvironment env := by
  rw [withEnvironment_eq_under, withEnvironment_eq_under, under_under, Layer.onto_self]

theorem exists_of_load {place : Location} {env : Environment} {c : Config} (h : load place env = .ok c) :
    ∃ base : Config, c = base.withEnvironment env := by
  cases place with
  | nothing => exact ⟨standard, (Except.ok.inj h).symm⟩
  | directory => cases h
  | file content =>
    obtain ⟨read, _, same⟩ := except_bind_eq_ok_iff (x := ofText content) |>.mp h
    exact ⟨_, (Except.ok.inj same).symm⟩

/-- Of the layers of a configuration, the command line over the environment over what was there before, the first
that gives a field has the say over it; what no layer can give stays. A variable that cannot be read has no part in
this. The environment changes nothing a second time, and so nothing in a configuration that was loaded under it. -/
theorem first_layer_prevails (c : Config) (env : Environment) (o : Overrides) :
    let final := (c.withEnvironment env).withOverrides o
    Prevails c.loop.strategy [fun k => o.strategy = some k, env.Names "LOGOS_SCHEDULER"] final.loop.strategy ∧
    Prevails c.loop.pollIntervalMs
      [fun ms => ∃ t, o.pollInterval = some t ∧ min (t / 1000) Whole.maxWord = ms,
        env.Spells "LOGOS_POLL_INTERVAL_MS"] final.loop.pollIntervalMs ∧
    Prevails c.health.intervalSecs
      [fun secs => ∃ t, o.healthInterval = some t ∧ t / 1000000 = secs,
        env.Spells "LOGOS_HEALTH_INTERVAL_SECS"] final.health.intervalSecs ∧
    Prevails c.loop.resultLifetimeSecs [env.Spells "LOGOS_RESULT_TTL_SECS"] final.loop.resultLifetimeSecs ∧
    Prevails c.capacityThreshold [env.Spells "LOGOS_AZURE_CAPACITY_THRESHOLD"] final.capacityThreshold ∧
    Prevails c.ollama.totalVramMb [env.Spells "LOGOS_OLLAMA_TOTAL_VRAM_MB"] final.ollama.totalVramMb ∧
    Prevails c.source
      [fun s => s = .commandLine ∧ o ≠ ⟨none, none, none⟩, fun s => s = .environment ∧ ∃ name, env.Legible name]
      final.source ∧
    final.SameBesides c ∧
    (∀ name, ¬env.Legible name → c.withEnvironment (env.unset name) = c.withEnvironment env) ∧
    (c.withEnvironment env).withEnvironment env = c.withEnvironment env ∧
    ∀ place, load place env = .ok c → c.withEnvironment env = c := by
  intro final
  have layers : final = (c.under env.layer).under o.layer := by
    rw [← withEnvironment_eq_under, ← withOverrides_eq_under]
  rw [layers]
  have counts (name : String) (n : Nat) : env.count? name = some n ↔ env.Spells name n :=
    Environment.count?_eq_some_iff
  refine ⟨?_, ?_, ?_, ?_, ?_, ?_, ?_, ?_, ?_, withEnvironment_twice c env, ?_⟩
  · exact .getD (fun _ => Iff.rfl) (.getD (fun _ => Environment.strategy?_eq_some_iff) .kept)
  · exact .getD (fun _ => Option.map_eq_some_iff) (.getD (counts _) .kept)
  · exact .getD (fun _ => Option.map_eq_some_iff) (.getD (counts _) .kept)
  · exact .getD (counts _) .kept
  · exact .getD (counts _) .kept
  · exact .getD (counts _) .kept
  · exact .getD (fun _ => Overrides.source_layer_eq_some_iff)
      (.getD (fun _ => Environment.source_layer_eq_some_iff) .kept)
  · rw [under_under]
    exact sameBesides_under c _
  · intro name illegible
    rw [withEnvironment_eq_under, withEnvironment_eq_under, Environment.layer_unset illegible]
  · intro place loaded
    obtain ⟨base, rfl⟩ := exists_of_load loaded
    exact withEnvironment_twice base env

/-- A name and a count are taken from the environment, a count that cannot be read is passed over, and the command
line has the say over the interval between health rounds, of which it takes the whole seconds. -/
theorem unread_lifetime_stays :
    let env : Environment := fun name => [("LOGOS_SCHEDULER", " FCFS "), ("LOGOS_POLL_INTERVAL_MS", "+250 "),
      ("LOGOS_RESULT_TTL_SECS", "not-a-number"), ("LOGOS_HEALTH_INTERVAL_SECS", "60")].lookup name
    let c := standard.withEnvironment env
    let final := (c.withEnvironment env).withOverrides ⟨none, none, some 90500000⟩
    load .nothing env = .ok c ∧ c.withEnvironment env = c ∧
      ¬env.Legible "LOGOS_RESULT_TTL_SECS" ∧
      c.withEnvironment (env.unset "LOGOS_RESULT_TTL_SECS") = c.withEnvironment env ∧
      final.loop.strategy = .firstCome ∧ final.loop.pollIntervalMs = 250 ∧ final.loop.resultLifetimeSecs = 300 ∧
      final.health.intervalSecs = 90 ∧ final.source = .commandLine := by
  intro env c final
  obtain ⟨_, _, _, _, _, _, _, _, unread, _, again⟩ := first_layer_prevails c env ⟨none, none, some 90500000⟩
  have loaded : load .nothing env = .ok c := rfl
  have illegible : ¬env.Legible "LOGOS_RESULT_TTL_SECS" := by
    rw [Environment.legible_iff]
    decide +kernel
  refine ⟨loaded, again .nothing loaded, illegible, unread _ illegible, ?_⟩
  decide +kernel

end Config

end InferenceDispatch
