import InferenceDispatch.Collections.SortedMap
import InferenceDispatch.Privacy

namespace InferenceDispatch

/-- A model that may serve requests. Of each weight more is better; a high cost weight is cheap. -/
structure Descriptor (α : Type) where
  model : String
  provider : String
  privacy : PrivacyTier
  cost : α
  latency : α
  accuracy : α
  quality : α
  slots : Nat
deriving DecidableEq

def Descriptor.onPremises {α : Type} [OfNat α 0] (model provider : String) : Descriptor α :=
  ⟨model, provider, .onPremises, 0, 0, 0, 0, 1⟩

abbrev Catalog (α : Type) := SortedMap String (Descriptor α)

namespace Catalog

variable {α : Type}

def put (c : Catalog α) (d : Descriptor α) : Catalog α := c.insert d.model d

def ofDescriptors (ds : List (Descriptor α)) : Catalog α := ds.foldl put SortedMap.empty

/-- Adds a model unless its id belongs to another provider; tells whether it was added. -/
def register (c : Catalog α) (d : Descriptor α) : Catalog α × Bool :=
  if (c.get? d.model).all fun e => e.provider = d.provider then (c.put d, true) else (c, false)

def removeProvider (c : Catalog α) (provider : String) : Catalog α :=
  c.filter fun _ d => d.provider ≠ provider

def countOf (c : Catalog α) (provider : String) : Nat :=
  c.values.countP fun d => d.provider = provider

end Catalog

end InferenceDispatch
