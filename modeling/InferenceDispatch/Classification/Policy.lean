import InferenceDispatch.ModelString.Basic

namespace InferenceDispatch

structure Policy (α : Type) where
  privacy : PrivacyTier
  cost : α
  latency : α
  accuracy : α
  quality : α
deriving DecidableEq

namespace Policy

/-- Accepts every model of non-negative cost weight and prefers none. -/
def permissive {α : Type} [OfNat α 0] : Policy α := ⟨.outsideEu, 0, 0, 0, 0⟩

def override? (p : Policy Double) (key value : String) : Option (Policy Double) :=
  match key with
  | "privacy" => (PrivacyTier.read? value).map fun t => { p with privacy := t }
  | "cost" => (readDouble? value.toList).map fun x => { p with cost := x }
  | "latency" => (readDouble? value.toList).map fun x => { p with latency := x }
  | "accuracy" => (readDouble? value.toList).map fun x => { p with accuracy := x }
  | "quality" => (readDouble? value.toList).map fun x => { p with quality := x }
  | _ => none

/-- The policy a request asks for: its overrides, in key order, on the default policy or on the
permissive one. -/
def ofRequest (defaults : Policy Double) (r : ModelString.Request) :
    Except ModelString.Fault (Policy Double) :=
  r.overrides.foldlM
    (fun p e => ((p.override? e.1 e.2).map Except.ok).getD (.error (.invalidValue e.1 e.2)))
    (if r.usesDefault then defaults else permissive)

end Policy

end InferenceDispatch
