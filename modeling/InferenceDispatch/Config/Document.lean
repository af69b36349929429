import InferenceDispatch.Config.Settings
import InferenceDispatch.Data.Toml.Document

namespace InferenceDispatch

def PrivacyTier.ofDatum? : Datum → Option PrivacyTier :=
  Datum.asChoice? Datum.isVoid PrivacyTier.ofName?

def StrategyKind.ofDatum? : Datum → Option StrategyKind :=
  Datum.asChoice? Datum.isVoid StrategyKind.ofName?

def ProviderKind.ofDatum? : Datum → Option ProviderKind :=
  Datum.asChoice? Datum.isVoid ProviderKind.ofName?

def LoopSettings.ofDatum? (d : Datum) : Option LoopSettings := do
  let r ← d.asRecord?
    ["kind", "poll_interval_ms", "result_ttl_secs", "default_slots_per_model"] true
  pure
    { strategy := ← r.defaulted "kind" StrategyKind.ofDatum? standard.strategy
      pollIntervalMs := ← r.defaulted "poll_interval_ms" Datum.asCount? standard.pollIntervalMs
      resultLifetimeSecs :=
        ← r.defaulted "result_ttl_secs" Datum.asCount? standard.resultLifetimeSecs
      defaultSlots := ← r.defaulted "default_slots_per_model" Datum.asCount? standard.defaultSlots }

def Scoring.ofDatum? (d : Datum) : Option (Scoring Double) := do
  let r ← d.asRecord? ["priority_weight", "depth_weight", "slot_weight", "cold_start_penalty"] true
  let usual : Scoring Double := standard
  pure
    { priorityWeight := ← r.defaulted "priority_weight" Datum.asReal? usual.priorityWeight
      depthWeight := ← r.defaulted "depth_weight" Datum.asReal? usual.depthWeight
      slotWeight := ← r.defaulted "slot_weight" Datum.asReal? usual.slotWeight
      coldStartPenalty := ← r.defaulted "cold_start_penalty" Datum.asReal? usual.coldStartPenalty }

def Policy.ofDatum? (d : Datum) : Option (Policy Double) := do
  let r ← d.asRecord?
    ["threshold_privacy", "threshold_cost", "threshold_latency", "threshold_accuracy",
      "threshold_quality"] true
  pure
    { privacy := ← r.defaulted "threshold_privacy" PrivacyTier.ofDatum? .outsideEu
      cost := ← r.defaulted "threshold_cost" Datum.asReal? 0
      latency := ← r.defaulted "threshold_latency" Datum.asReal? 0
      accuracy := ← r.defaulted "threshold_accuracy" Datum.asReal? 0
      quality := ← r.defaulted "threshold_quality" Datum.asReal? 0 }

def ClassifierSettings.ofDatum? (d : Datum) : Option (ClassifierSettings Double) := do
  let r ← d.asRecord? ["sigmoid_k", "strict", "default_policy"] true
  pure
    { steepness := ← r.defaulted "sigmoid_k" Datum.asReal? standard.steepness
      strict := ← r.defaulted "strict" Datum.asBool? standard.strict
      defaultPolicy := ← r.defaulted "default_policy" Policy.ofDatum? standard.defaultPolicy }

def Azure.thresholdOfDatum? (d : Datum) : Option Nat := do
  let r ← d.asRecord? ["capacity_threshold"] true
  r.defaulted "capacity_threshold" Datum.asCount? Config.standard.capacityThreshold

def OllamaSettings.ofDatum? (d : Datum) : Option OllamaSettings := do
  let r ← d.asRecord? ["total_vram_mb", "refresh_interval_ms", "request_timeout_ms"] true
  pure
    { totalVramMb := ← r.defaulted "total_vram_mb" Datum.asCount? standard.totalVramMb
      refreshIntervalMs :=
        ← r.defaulted "refresh_interval_ms" Datum.asCount? standard.refreshIntervalMs
      requestTimeoutMs :=
        ← r.defaulted "request_timeout_ms" Datum.asCount? standard.requestTimeoutMs }

def HealthSettings.ofDatum? (d : Datum) : Option HealthSettings := do
  let r ← d.asRecord? ["interval_secs", "probe_timeout_secs", "auto_remove_after_secs"] true
  pure
    { intervalSecs := ← r.defaulted "interval_secs" Datum.asCount? standard.intervalSecs
      probeTimeoutSecs :=
        ← r.defaulted "probe_timeout_secs" Datum.asCount? standard.probeTimeoutSecs
      removeAfterSecs :=
        ← r.defaulted "auto_remove_after_secs" Datum.asCount? standard.removeAfterSecs }

def ProviderEntry.ofDatum? (d : Datum) : Option ProviderEntry := do
  let r ← d.asRecord? ["id", "kind", "url", "deployments"] true
  pure
    { id := ← r.required "id" Datum.asText?
      kind := ← r.required "kind" ProviderKind.ofDatum?
      url := ← r.optional "url" Datum.asText?
      deployments := .ofList (← r.defaulted "deployments" Datum.asTexts? []) }

def Descriptor.ofDatum? (d : Datum) : Option (Descriptor Double) := do
  let r ← d.asRecord?
    ["model_id", "provider_id", "privacy", "weight_cost", "weight_latency", "weight_accuracy",
      "weight_quality", "slots"] true
  pure
    { model := ← r.required "model_id" Datum.asText?
      provider := ← r.required "provider_id" Datum.asText?
      privacy := ← r.required "privacy" PrivacyTier.ofDatum?
      cost := ← r.defaulted "weight_cost" Datum.asReal? 0
      latency := ← r.defaulted "weight_latency" Datum.asReal? 0
      accuracy := ← r.defaulted "weight_accuracy" Datum.asReal? 0
      quality := ← r.defaulted "weight_quality" Datum.asReal? 0
      slots := ← r.defaulted "slots" Datum.asCount? 1 }

namespace Config

def ofDatum? (d : Datum) : Option Config := do
  let r ← d.asRecord?
    ["scheduler", "scoring", "classifier", "azure", "ollama", "health", "providers", "models"] true
  pure
    { standard with
      loop := ← r.defaulted "scheduler" LoopSettings.ofDatum? standard.loop
      scoring := ← r.defaulted "scoring" Scoring.ofDatum? standard.scoring
      classifier := ← r.defaulted "classifier" ClassifierSettings.ofDatum? standard.classifier
      capacityThreshold :=
        ← r.defaulted "azure" Azure.thresholdOfDatum? standard.capacityThreshold
      ollama := ← r.defaulted "ollama" OllamaSettings.ofDatum? standard.ollama
      health := ← r.defaulted "health" HealthSettings.ofDatum? standard.health
      providers := ← r.defaulted "providers" (Datum.asList? ProviderEntry.ofDatum?) []
      models := ← r.defaulted "models" (Datum.asList? Descriptor.ofDatum?) [] }

def read? (toml : String) : Option Config := (Toml.read? toml).bind ofDatum?

end Config

end InferenceDispatch
