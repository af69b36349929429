import InferenceDispatch.Data.Json.Reader
import InferenceDispatch.Http.Header
import InferenceDispatch.Http.Status
import InferenceDispatch.Http.Url

namespace InferenceDispatch.Http

structure Request where
  url : Url
  authorization : Option String
deriving DecidableEq

structure Response where
  status : Nat
  body : String
deriving DecidableEq, Repr

/-- What a network answers to a request; nothing if the connection fails. -/
abbrev Network := Request → Option Response

def Network.down : Network := fun _ => none

inductive Fault where
  | unbuildable (url : Option Url)
  | noConnection (url : Url)
deriving DecidableEq

def Fault.message : Fault → String
  | unbuildable none => "builder error"
  | unbuildable (some url) => "builder error for url (" ++ url.text ++ ")"
  | noConnection url => "error sending request for url (" ++ url.text ++ ")"

def undecodable : String := "error decoding response body"

/-- Builds a request, with a bearer key if one is given. A URL without a host is refused before the
key is looked at, one that cannot be asked for over HTTP afterwards. -/
def Request.build (url : String) (key : Option String) : Except Fault Request :=
  match (Url.read? url).map Url.withoutReadableCredentials with
  | none => .error (.unbuildable none)
  | some u =>
    if !u.hasHost then .error (.unbuildable (some u))
    else if key.any fun k => !isHeaderValue k then .error (.unbuildable none)
    else if !u.isFetchable then .error (.unbuildable (some u))
    else .ok ⟨u, key.map fun k => "Bearer " ++ k⟩

def fetch (net : Network) (url : String) (key : Option String) : Except Fault Response := do
  let request ← Request.build url key
  match net request with
  | some response => pure response
  | none => throw (.noConnection request.url)

end InferenceDispatch.Http
