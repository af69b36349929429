import InferenceDispatch.Number.Double
import InferenceDispatch.Number.Whole

namespace InferenceDispatch

class Measure (α : Type) extends LE α where
  decLE : DecidableLE α
  zero : α
  /-- The value without its fraction, as a count. -/
  whole : α → Nat
  /-- The least count that is no smaller than `n` times the fraction. -/
  share : (n : Nat) → α → Nat
  ratio : Nat → Nat → α
  fits : Nat → Bool

instance : Measure Double where
  decLE := inferInstance
  zero := 0
  whole := Double.toCount
  share n p := ((.ofNat n : Double) * p).ceil.toCount
  ratio a b := .ofNat a / .ofNat b
  fits n := n < Whole.wordBound

structure Histogram (α : Type) where
  bounds : List α
  counts : List Nat
  total : Nat
  /-- The sum of the whole parts, modulo 2 ^ 64. -/
  sum : UInt64
  max : Nat
deriving DecidableEq

structure Snapshot (α : Type) where
  bounds : List α
  counts : List Nat
  total : Nat
  max : Nat
  mean : α
deriving DecidableEq

namespace Histogram

variable {α : Type}

def ofBounds (bounds : List α) : Histogram α := ⟨bounds, bounds.map fun _ => 0, 0, 0, 0⟩

variable [Measure α]

def bucketOf (bounds : List α) (x : α) : Nat :=
  have := Measure.decLE (α := α)
  (bounds.findIdx? fun b => x ≤ b).getD (bounds.length - 1)

def record (h : Histogram α) (x : α) : Histogram α :=
  if h.bounds.isEmpty then h
  else
    { h with
      counts := h.counts.modify (bucketOf h.bounds x) (· + 1)
      total := h.total + 1
      sum := h.sum + .ofNat (Measure.whole x)
      max := Nat.max h.max (Measure.whole x) }

def snapshot (h : Histogram α) : Snapshot α where
  bounds := h.bounds
  counts := h.counts
  total := h.total
  max := h.max
  mean := if h.total = 0 then Measure.zero else Measure.ratio h.sum.toNat h.total

end Histogram

def waitBounds : List Double :=
  [1.0, 5.0, 10.0, 50.0, 100.0, 500.0, 1000.0, 5000.0, 30000.0, 120000.0, 300000.0]

namespace Snapshot

variable {α : Type} [Measure α]

/-- The position of the first bucket at which the running count reaches `target`, if one does. There
is no answer if a running count on the way cannot be held. -/
def reaches? (fits : Nat → Bool) (target : Nat) : (soFar : Nat) → List Nat → Option (Option Nat)
  | _, [] => some none
  | soFar, c :: cs =>
    if !fits (soFar + c) then none
    else if target ≤ soFar + c then some (some 0)
    else (reaches? fits target (soFar + c) cs).map fun found => found.map (· + 1)

/-- The upper bound of the bucket that holds the `p` quantile; the last bound if the counts do not
reach it. There is none if that bucket has no bound, or if the counts cannot be added up. -/
def percentile? (s : Snapshot α) (p : α) : Option α :=
  if s.total = 0 then some Measure.zero
  else
    match reaches? (Measure.fits α) (Measure.share s.total p) 0 s.counts with
    | none => none
    | some (some i) => s.bounds[i]?
    | some none => some (s.bounds.getLast?.getD Measure.zero)

end Snapshot

end InferenceDispatch
