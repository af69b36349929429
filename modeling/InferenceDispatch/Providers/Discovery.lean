import InferenceDispatch.Http.Exchange
import InferenceDispatch.Providers.Directory

namespace InferenceDispatch.Discovery

inductive Fault where
  | transport (url : String) (cause : Http.Fault)
  | status (url : String) (code : Nat)
  | body (url : String)
deriving DecidableEq

def Fault.message : Fault → String
  | transport url cause => "request to " ++ url ++ " failed: " ++ cause.message
  | status url code => url ++ " returned HTTP " ++ Whole.text code
  | body url => url ++ " returned an unexpected body: " ++ Http.undecodable

def names? (listField field : String) (d : Datum) : Option (List String) := do
  let r ← d.asRecord? [listField] false
  r.required listField (Datum.asList? fun item => do
    (← item.asRecord? [field] false).required field Datum.asText?)

def openAiModels : String × (Datum → Option (List String)) := ("/v1/models", names? "data" "id")

def ollamaTags : String × (Datum → Option (List String)) := ("/api/tags", names? "models" "name")

def fetchListing (net : Http.Network) (base : String) (key : Option String)
    (listing : String × (Datum → Option (List String))) : Except Fault (List String) :=
  let url := base ++ listing.1
  match Http.fetch net url key with
  | .error cause => .error (.transport url cause)
  | .ok response =>
    if Http.isSuccess response.status then
      (((Json.read? response.body).bind listing.2).map Except.ok).getD (.error (.body url))
    else .error (.status url response.status)

/-- The models of a server. If neither listing can be had, the fault is that of the second one. -/
def discover (net : Http.Network) (base : String) (key : Option String) :
    Except Fault (List String) :=
  let base := Text.trimEnd '/' base
  match fetchListing net base key openAiModels with
  | .ok models => .ok models
  | .error _ => fetchListing net base key ollamaTags

/-- Fills in the models of a registration that names none; it has none if discovery fails. -/
def complete (net : Http.Network) (r : Registration) : Registration :=
  if r.models.isEmpty then
    match discover net r.url r.key with
    | .ok models => { r with models }
    | .error _ => r
  else r

end InferenceDispatch.Discovery
