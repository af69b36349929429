import InferenceDispatch.Http.Header
import InferenceDispatch.Number.Whole
import InferenceDispatch.Telemetry.Report

namespace InferenceDispatch

def requestsHeader : String := "x-ratelimit-remaining-requests"

def tokensHeader : String := "x-ratelimit-remaining-tokens"

structure Deployment where
  provider : String
  name : String
deriving DecidableEq, Repr

structure RateLimits where
  requests : Option Nat
  tokens : Option Nat
  hasCapacity : Bool
  observedAt : Time
deriving DecidableEq, Repr

structure Azure where
  threshold : Nat
  deployments : Table String Deployment
  limits : Table Deployment RateLimits
deriving DecidableEq

namespace Azure

def ofThreshold (threshold : Nat) : Azure := ⟨threshold, Table.empty, Table.empty⟩

def deploy (a : Azure) (model : String) (d : Deployment) : Azure :=
  { a with deployments := a.deployments.insert model d }

def isExhausted (a : Azure) (requests tokens : Option Nat) : Bool :=
  requests.any (· ≤ a.threshold) || tokens.any (· ≤ a.threshold)

/-- Notes the counters of a deployment; a counter that is not given keeps its value. -/
def observe (a : Azure) (d : Deployment) (requests tokens : Option Nat) (now : Time) : Azure :=
  let last := a.limits.get? d
  let requests := requests.or (last.bind RateLimits.requests)
  let tokens := tokens.or (last.bind RateLimits.tokens)
  { a with limits :=
      a.limits.insert d ⟨requests, tokens, !a.isExhausted requests tokens, now⟩ }

def readCounter (h : Http.Headers) (name : String) : Option Nat :=
  (h.text? name).bind fun s => Whole.readWord? s.toList

/-- Notes the counters in the headers of a response; headers without a counter are passed over. -/
def observeHeaders (a : Azure) (d : Deployment) (h : Http.Headers) (now : Time) : Azure :=
  match readCounter h requestsHeader, readCounter h tokensHeader with
  | none, none => a
  | requests, tokens => a.observe d requests tokens now

def telemetry (a : Azure) (d : Deployment) : Telemetry :=
  match a.limits.get? d with
  | some l => .rateLimits l.requests l.tokens (some l.observedAt)
  | none => .rateLimits none none none

/-- A deployment that was never observed can take work. -/
def capacity (a : Azure) (d : Deployment) : CapacityReport :=
  ⟨(a.limits.get? d).all RateLimits.hasCapacity, a.telemetry d⟩

/-- The deployment name of a model: its own id if none was named. -/
def deploymentOf (a : Azure) (model : String) : String :=
  ((a.deployments.get? model).map Deployment.name).getD model

def report (a : Azure) (q : Queue) (model : String) : ModelReport :=
  match a.deployments.get? model with
  | some d => ⟨true, some (q.counts ⟨model, d.provider⟩), a.telemetry d⟩
  | none => ⟨true, some (q.modelCounts model), .unknown⟩

end Azure

end InferenceDispatch
