import InferenceDispatch.Classification.Catalog
import InferenceDispatch.Classification.Policy
import InferenceDispatch.Number.TotalOrder
import InferenceDispatch.Scheduling.Task

namespace InferenceDispatch

structure ClassifierSettings (α : Type) where
  steepness : α
  strict : Bool
  defaultPolicy : Policy α
deriving DecidableEq

structure Classified (α : Type) where
  descriptor : Descriptor α
  weight : α
deriving DecidableEq

section Weight

variable {α : Type} [Add α] [Sub α] [Mul α] [Div α] [Neg α] [OfNat α 0] [OfNat α 1]

def sigmoid (exp : α → α) (x t k : α) : α := 1 / (1 + exp (-k * (x - t)))

variable [LT α] [DecidableLT α]

/-- What one dimension adds to the weight: nothing in strict mode below the threshold. -/
def dimensionWeight (exp : α → α) (k : α) (strict : Bool) (x t : α) : α :=
  if strict ∧ x < t then 0 else sigmoid exp x t k

def softWeight (exp : α → α) (k : α) (strict : Bool) (p : Policy α) (d : Descriptor α) : α :=
  [(d.latency, p.latency), (d.accuracy, p.accuracy), (d.quality, p.quality)].foldl
    (fun sum e => sum + dimensionWeight exp k strict e.1 e.2) 0

variable [LE α] [DecidableLE α]

def Policy.allows (p : Policy α) (d : Descriptor α) : Bool :=
  d.privacy.satisfies p.privacy && p.cost ≤ d.cost

def classify (exp : α → α) (k : α) (strict : Bool) (c : Catalog α) (p : Policy α) :
    List (Classified α) :=
  (c.values.filter p.allows).map fun d => ⟨d, softWeight exp k strict p d⟩

theorem map_descriptor_classify (exp : α → α) (k : α) (strict : Bool) (c : Catalog α) (p : Policy α) :
    (classify exp k strict c p).map Classified.descriptor = c.values.filter p.allows := by
  rw [classify, List.map_map]
  exact List.map_id _

end Weight

namespace Classified

/-- Whether `a` ranks no later than `b`: more weight first, equal weights by model id. -/
def rankedBefore (a b : Classified Double) : Bool :=
  let (x, y) := (totalKey a.weight, totalKey b.weight)
  y < x || (x = y && a.descriptor.model ≤ b.descriptor.model)

def rank (l : List (Classified Double)) : List (Classified Double) := l.mergeSort rankedBefore

def toCandidate (priority : Priority) (m : Classified Double) : Candidate :=
  ⟨m.descriptor.model, m.descriptor.provider, m.weight, priority⟩

end Classified

end InferenceDispatch
