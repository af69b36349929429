import InferenceDispatch.Classification.Classifier
import InferenceDispatch.ModelString.Reader

namespace InferenceDispatch.Admission

/-- How the model field was understood. -/
inductive Routing where
  | direct
  | classified (request : ModelString.Request) (policy : Policy Double)
deriving DecidableEq

structure Plan where
  routing : Routing
  priority : Priority
  ranked : List (Classified Double)
deriving DecidableEq

namespace Plan

def candidates (p : Plan) : List Candidate := p.ranked.map (Classified.toCandidate p.priority)

def isEmpty (p : Plan) : Bool := p.ranked.isEmpty

end Plan

def isModelString (field : List Char) : Bool := (Text.after? ModelString.stem.toList field).isSome

/-- Resolves the model field of a request. A plan without candidates is no fault. -/
def plan (catalog : Catalog Double) (settings : ClassifierSettings Double) (field : String)
    (priority : Priority) : Except ModelString.Fault Plan := do
  let field := Text.trim field
  if isModelString field.toList then
    let request ← ModelString.read field
    let policy ← Policy.ofRequest settings.defaultPolicy request
    let models := classify Double.exp settings.steepness settings.strict catalog policy
    pure ⟨.classified request policy, priority, Classified.rank models⟩
  else
    match catalog.get? field with
    | some d => pure ⟨.direct, priority, [⟨d, 1⟩]⟩
    | none => throw (.unknownModel field)

end InferenceDispatch.Admission
