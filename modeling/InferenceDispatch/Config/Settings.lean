import InferenceDispatch.Classification.Classifier
import InferenceDispatch.Number.Shortest
import InferenceDispatch.Providers.Health
import InferenceDispatch.Telemetry.Ollama

namespace InferenceDispatch

structure LoopSettings where
  strategy : StrategyKind
  pollIntervalMs : Nat
  resultLifetimeSecs : Nat
  defaultSlots : Nat
deriving DecidableEq, Repr

namespace LoopSettings

def standard : LoopSettings := ⟨.scored, 100, 300, 1⟩

def withPollInterval (s : LoopSettings) (t : Time) : LoopSettings :=
  { s with pollIntervalMs := Whole.saturate (wholeMilliseconds t) }

def withResultLifetime (s : LoopSettings) (t : Time) : LoopSettings :=
  { s with resultLifetimeSecs := wholeSeconds t }

/-- The time between polls, at least a millisecond. -/
def pollInterval (s : LoopSettings) : Time := milliseconds (max s.pollIntervalMs 1)

def manager (s : LoopSettings) : ManagerSettings := ⟨seconds s.resultLifetimeSecs, s.defaultSlots⟩

end LoopSettings

def ClassifierSettings.standard : ClassifierSettings Double := ⟨0.2, false, .permissive⟩

inductive ProviderKind where
  | azure
  | ollama
deriving DecidableEq, Repr

namespace ProviderKind

def name : ProviderKind → String
  | azure => "azure"
  | ollama => "ollama"

def ofName? (s : String) : Option ProviderKind := [azure, ollama].find? fun k => k.name = s

end ProviderKind

structure ProviderEntry where
  id : String
  kind : ProviderKind
  url : Option String
  deployments : SortedMap String String
deriving DecidableEq

/-- The layer that had the last word on a configuration. -/
inductive ConfigSource where
  | builtIn
  | file
  | environment
  | commandLine
deriving DecidableEq, Repr

def ConfigSource.name : ConfigSource → String
  | builtIn => "default"
  | file => "config file"
  | environment => "environment"
  | commandLine => "CLI"

structure Config where
  loop : LoopSettings
  scoring : Scoring Double
  classifier : ClassifierSettings Double
  /-- An Azure deployment with no more than this left is full. -/
  capacityThreshold : Nat
  ollama : OllamaSettings
  health : HealthSettings
  providers : List ProviderEntry
  models : List (Descriptor Double)
  source : ConfigSource
  fromFile : Bool
deriving DecidableEq

namespace Config

def standard : Config :=
  { loop := .standard
    scoring := .standard
    classifier := .standard
    capacityThreshold := 10
    ollama := .standard
    health := .standard
    providers := []
    models := []
    source := .builtIn
    fromFile := false }

inductive Fault where
  | noPollInterval
  | steepness (k : Double)
  | unboundedWeight
  | noMemory
  | noHealthInterval
  | duplicateProvider (id : String)
  | missingUrl (id : String)
  | duplicateModel (id : String)

namespace Fault

def detail : Fault → String
  | noPollInterval => "scheduler.poll_interval_ms must be greater than 0"
  | steepness k => "classifier.sigmoid_k must be a positive number, got " ++ Shortest.text k.toFloat
  | unboundedWeight => "scoring weights must be finite"
  | noMemory => "ollama.total_vram_mb must be greater than 0"
  | noHealthInterval =>
    "health.interval_secs and health.probe_timeout_secs must be greater than 0"
  | duplicateProvider id => "duplicate provider id '" ++ id ++ "'"
  | missingUrl id => "ollama provider '" ++ id ++ "' needs a url"
  | duplicateModel id => "duplicate model id '" ++ id ++ "'"

def message (f : Fault) : String := "Invalid configuration: " ++ f.detail

end Fault

/-- What is wrong with a provider that stands behind those of the given ids. -/
def providerFault? (before : List String) (p : ProviderEntry) : Option Fault :=
  if p.id ∈ before then some (.duplicateProvider p.id)
  else if p.kind = .ollama ∧ p.url = none then some (.missingUrl p.id)
  else none

/-- The first fault in a list, where each item is judged by the ids in front of it. -/
def firstFault? {α : Type} (id : α → String) (judge : List String → α → Option Fault) :
    (before : List String) → List α → Option Fault
  | _, [] => none
  | before, a :: r => (judge before a).or (firstFault? id judge (id a :: before) r)

def fault? (c : Config) : Option Fault :=
  let weights := [c.scoring.priorityWeight, c.scoring.depthWeight, c.scoring.slotWeight,
    c.scoring.coldStartPenalty]
  if c.loop.pollIntervalMs = 0 then some .noPollInterval
  else if ¬(c.classifier.steepness.isFinite ∧ 0 < c.classifier.steepness) then
    some (.steepness c.classifier.steepness)
  else if weights.any fun w => !w.isFinite then some .unboundedWeight
  else if c.ollama.totalVramMb = 0 then some .noMemory
  else if c.health.intervalSecs = 0 ∨ c.health.probeTimeoutSecs = 0 then some .noHealthInterval
  else
    (firstFault? ProviderEntry.id providerFault? [] c.providers).or
      (firstFault? Descriptor.model
        (fun before m => if m.model ∈ before then some (.duplicateModel m.model) else none)
        [] c.models)

end Config

end InferenceDispatch
