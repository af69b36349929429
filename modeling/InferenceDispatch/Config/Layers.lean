import InferenceDispatch.Config.Document

namespace InferenceDispatch

abbrev Environment := (name : String) → Option String

namespace Environment

def strategy? (env : Environment) (name : String) : Option StrategyKind :=
  (env name).bind StrategyKind.read?

def count? (env : Environment) (name : String) : Option Nat :=
  (env name).bind fun s => Whole.readWord? (Text.trim s).toList

end Environment

structure Overrides where
  strategy : Option StrategyKind
  pollInterval : Option Time
  healthInterval : Option Time
deriving DecidableEq, Repr

namespace Overrides

def isEmpty (o : Overrides) : Bool :=
  o.strategy.isNone && o.pollInterval.isNone && o.healthInterval.isNone

end Overrides

namespace Config

/-- Applies the environment. A variable that cannot be read is passed over. -/
def withEnvironment (c : Config) (env : Environment) : Config :=
  let strategy := env.strategy? "LOGOS_SCHEDULER"
  let poll := env.count? "LOGOS_POLL_INTERVAL_MS"
  let lifetime := env.count? "LOGOS_RESULT_TTL_SECS"
  let threshold := env.count? "LOGOS_AZURE_CAPACITY_THRESHOLD"
  let memory := env.count? "LOGOS_OLLAMA_TOTAL_VRAM_MB"
  let interval := env.count? "LOGOS_HEALTH_INTERVAL_SECS"
  let touched := strategy.isSome || [poll, lifetime, threshold, memory, interval].any Option.isSome
  { c with
    loop := { c.loop with
      strategy := strategy.getD c.loop.strategy
      pollIntervalMs := poll.getD c.loop.pollIntervalMs
      resultLifetimeSecs := lifetime.getD c.loop.resultLifetimeSecs }
    capacityThreshold := threshold.getD c.capacityThreshold
    ollama := { c.ollama with totalVramMb := memory.getD c.ollama.totalVramMb }
    health := { c.health with intervalSecs := interval.getD c.health.intervalSecs }
    source := if touched then .environment else c.source }

def withOverrides (c : Config) (o : Overrides) : Config :=
  { c with
    loop :=
      let loop := { c.loop with strategy := o.strategy.getD c.loop.strategy }
      (o.pollInterval.map loop.withPollInterval).getD loop
    health := { c.health with
      intervalSecs := (o.healthInterval.map wholeSeconds).getD c.health.intervalSecs }
    source := if o.isEmpty then c.source else .commandLine }

inductive Location where
  | nothing
  | directory
  | file (content : String)
deriving DecidableEq, Repr

inductive LoadFault where
  | unreadable
  | malformed
deriving DecidableEq, Repr

def ofText (toml : String) : Except LoadFault Config :=
  ((read? toml).map Except.ok).getD (.error .malformed)

def load (place : Location) (env : Environment) : Except LoadFault Config := do
  let c ← match place with
    | .nothing => pure standard
    | .directory => throw .unreadable
    | .file content => do
      pure { ← ofText content with source := .file, fromFile := true }
  pure (c.withEnvironment env)

end Config

end InferenceDispatch
