import InferenceDispatch.Scheduling.Scheduler
import InferenceDispatch.Text.Blank

namespace InferenceDispatch

/-- Free slots per model; a model that is not listed has none. -/
abbrev WorkTable := Table String Nat

namespace WorkTable

def available (w : WorkTable) (model : String) : Nat := (w.get? model).getD 0

def withCapacity (w : WorkTable) : List (String × Nat) := w.entries.filter fun e => 0 < e.2

end WorkTable

structure Gate where
  /-- Whether the provider takes work for the model. -/
  admitsWork : QueueKey → Bool
  /-- Whether the model would have to be loaded first. -/
  isCold : QueueKey → Bool

namespace Gate

def unguarded : Gate := ⟨fun _ => true, fun _ => false⟩

def eligible (g : Gate) (w : WorkTable) (key : QueueKey) : Bool :=
  0 < w.available key.model && g.admitsWork key

end Gate

structure Scoring (α : Type) where
  priorityWeight : α
  depthWeight : α
  slotWeight : α
  coldStartPenalty : α
deriving DecidableEq

inductive Strategy (α : Type) where
  | firstCome
  | scored (weights : Scoring α)
deriving DecidableEq

section Score

variable {α : Type} [OfScientific α]

def ofCount (n : Nat) : α := OfScientific.ofScientific n false 0

/-- Scores closer than this are equal. -/
def scoreTolerance : α := 1e-9

def Scoring.standard : Scoring α := ⟨10.0, 0.1, 1.0, 5.0⟩

variable [Add α] [Sub α] [Mul α]

def Scoring.score (s : Scoring α) (tier : Priority) (depth free : Nat) (cold : Bool) : α :=
  let warm := s.priorityWeight * ofCount tier.value - s.depthWeight * ofCount depth
    + s.slotWeight * ofCount free
  if cold then warm - s.coldStartPenalty else warm

def Scoring.ofEntry (s : Scoring α) (g : Gate) (q : Queue) (e : Entry) (free : Nat) : α :=
  s.score e.tier (q.modelDepth e.key.model) free (g.isCold e.key)

variable [LE α] [LT α] [DecidableLE α] [DecidableLT α]

/-- Whether a scored entry displaces the best one so far: by a better score, or by an equal score
and an earlier arrival. -/
def displaces (new best : α × Entry) : Bool :=
  best.1 + scoreTolerance < new.1 ||
    (new.1 - best.1 ≤ scoreTolerance && best.1 - new.1 ≤ scoreTolerance && new.2.before best.2)

def better (best : Option (α × Entry)) (new : α × Entry) : Option (α × Entry) :=
  match best with
  | none => some new
  | some b => if displaces new b then some new else some b

namespace Strategy

def heads (g : Gate) (w : WorkTable) (q : Queue) : List Entry :=
  (q.keys.filter (g.eligible w)).filterMap fun k => q.front? k none

def choose (s : Strategy α) (g : Gate) (w : WorkTable) (q : Queue) : Option Entry :=
  match s with
  | firstCome => (heads g w q).head?
  | scored weights =>
    let scoredHeads := (heads g w q).map fun e =>
      (weights.ofEntry g q e (w.available e.key.model), e)
    (scoredHeads.foldl better none).map Prod.snd

end Strategy

def Scheduler.schedule (strategy : Strategy α) (g : Gate) (w : WorkTable) (now : Time)
    (s : Scheduler) : Option (Scheduled × Scheduler) := do
  s.claim? (← strategy.choose g w s.queue).id now

end Score

inductive StrategyKind where
  | firstCome
  | scored
deriving DecidableEq, Repr, Inhabited

namespace StrategyKind

def name : StrategyKind → String
  | firstCome => "fcfs"
  | scored => "priority"

def ofName? (s : String) : Option StrategyKind := [firstCome, scored].find? fun k => k.name = s

def read? (s : String) : Option StrategyKind := ofName? (Text.lower (Text.trim s))

def unknownMessage (s : String) : String :=
  "unknown scheduler '" ++ Text.lower (Text.trim s) ++ "' (expected fcfs or priority)"

def strategy {α : Type} (k : StrategyKind) (weights : Scoring α) : Strategy α :=
  match k with
  | firstCome => .firstCome
  | scored => .scored weights

end StrategyKind

end InferenceDispatch
