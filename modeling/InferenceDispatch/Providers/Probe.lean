import InferenceDispatch.Http.Exchange
import InferenceDispatch.Providers.Directory

namespace InferenceDispatch

inductive ProbeOutcome where
  | reachable (endpoint : String) (status : Nat)
  | unreachable (reason : String)
deriving DecidableEq, Repr

namespace ProbeOutcome

def isReachable : ProbeOutcome → Bool
  | reachable .. => true
  | unreachable _ => false

end ProbeOutcome

namespace Probe

def endpoints : List String := ["/v1/models", "/api/tags"]

/-- What one endpoint tells: any answer but a server's own fault shows that the server is there. -/
def tryEndpoint (net : Http.Network) (base : String) (key : Option String) (endpoint : String) :
    ProbeOutcome :=
  let url := base ++ endpoint
  match Http.fetch net url key with
  | .error fault => .unreachable (url ++ ": " ++ fault.message)
  | .ok response =>
    if response.status < 500 then .reachable endpoint response.status
    else .unreachable (url ++ " returned " ++ Http.statusText response.status)

/-- Probes a server: the first endpoint that answers counts, else the last fault. -/
def run (net : Http.Network) (p : TempProvider) : ProbeOutcome :=
  endpoints.foldl
    (fun found e => if found.isReachable then found else tryEndpoint net p.url p.key e)
    (.unreachable "no endpoint tried")

end Probe

end InferenceDispatch
