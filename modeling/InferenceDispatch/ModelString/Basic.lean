import InferenceDispatch.Collections.SortedMap
import InferenceDispatch.Number.Decimal
import InferenceDispatch.Privacy

namespace InferenceDispatch.ModelString

def stem : String := "logos-v"

def thresholdKeys : List String := ["cost", "latency", "accuracy", "quality"]

/-- The keys that belong to the policy wherever they stand. -/
def policyKeys : List String := "default" :: "privacy" :: thresholdKeys

/-- The extra keys that are kept; all others are dropped. -/
def keptExtras : List String := ["policy"]

inductive Fault where
  | missingStem
  | missingVersion
  | emptySegment
  /-- A segment or fragment is not a key and a value around one equals sign. -/
  | notPair (text : String)
  /-- A fragment of a policy segment continues no value. -/
  | dangling (fragment : String)
  | unknownModel (model : String)
  | invalidValue (key value : String)
  | missingOverride
deriving DecidableEq, Repr

inductive Fault.Kind where
  | malformed
  | invalidValue
  | missingAttribute
deriving DecidableEq, Repr

namespace Fault

def kind : Fault → Kind
  | invalidValue .. => .invalidValue
  | missingOverride => .missingAttribute
  | _ => .malformed

def detail : Fault → String
  | missingStem => "expected prefix '" ++ stem ++ "'"
  | missingVersion => "missing version"
  | emptySegment => "empty segment"
  | notPair text => "expected key=value, got '" ++ text ++ "'"
  | dangling fragment => "dangling fragment '" ++ fragment ++ "' in policy segment"
  | unknownModel model => "unknown model '" ++ model ++ "'"
  | invalidValue key value => "'" ++ key ++ "': " ++ value
  | missingOverride => "default=false requires at least one policy override"

def message (f : Fault) : String :=
  match f.kind with
  | .malformed => "malformed model string: " ++ f.detail
  | .invalidValue => "invalid value for " ++ f.detail
  | .missingAttribute => "missing attribute: " ++ f.detail

end Fault

structure Request where
  version : String
  policy : SortedMap String String
  extra : SortedMap String String
deriving DecidableEq

namespace Request

def usesDefault (r : Request) : Bool := (r.policy.get? "default").all (· = "true")

def overrides (r : Request) : List (String × String) :=
  r.policy.entries.filter fun e => e.1 ≠ "default"

/-- Writes a request as a model string: version, kept extra, then one policy segment. -/
def render (r : Request) : String :=
  let extra := ((r.extra.get? "policy").map fun v => "__policy=" ++ v).getD ""
  let default := "__policy_default=" ++ (r.policy.get? "default").getD "true"
  stem ++ r.version ++ extra ++ default ++
    String.join (r.overrides.map fun e => "_" ++ e.1 ++ "=" ++ e.2)

end Request

end InferenceDispatch.ModelString
