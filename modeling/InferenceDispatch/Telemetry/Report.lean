import InferenceDispatch.Scheduling.Queue
import InferenceDispatch.Telemetry.Timestamp

namespace InferenceDispatch

inductive Telemetry where
  | rateLimits (requests tokens : Option Nat) (observedAt : Option Time)
  /-- Video memory in megabytes, and the models that are loaded. -/
  | memory (total available used : Nat) (loaded : List String) (expiresAt : Option Timestamp)
  | unknown
deriving DecidableEq

def Telemetry.toDatum : Telemetry → Datum
  | rateLimits requests tokens observedAt =>
    .fields [("kind", .text "azure"), ("remaining_requests", .maybe .count requests),
      ("remaining_tokens", .maybe .count tokens), ("last_updated", .maybe .count observedAt)]
  | memory total available used loaded expiresAt =>
    .fields [("kind", .text "ollama"), ("total_vram_mb", .count total),
      ("available_vram_mb", .count available), ("model_vram_mb", .count used),
      ("loaded_models", .each .text loaded),
      ("expires_at", .maybe (fun t => .text t.text) expiresAt)]
  | unknown => .fields [("kind", .text "unknown")]

structure ModelReport where
  isLoaded : Bool
  waiting : Option TierCounts
  telemetry : Telemetry
deriving DecidableEq

def ModelReport.toDatum (r : ModelReport) : Datum :=
  .fields [("is_loaded", .bool r.isLoaded), ("queue_state", .maybe TierCounts.toDatum r.waiting),
    ("metrics", r.telemetry.toDatum)]

structure CapacityReport where
  hasCapacity : Bool
  telemetry : Telemetry
deriving DecidableEq

def CapacityReport.toDatum (r : CapacityReport) : Datum :=
  .fields [("has_capacity", .bool r.hasCapacity), ("metrics", r.telemetry.toDatum)]

end InferenceDispatch
