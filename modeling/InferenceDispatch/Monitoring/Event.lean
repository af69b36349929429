import InferenceDispatch.Clock
import InferenceDispatch.Number.Whole
import InferenceDispatch.Scheduling.Task

namespace InferenceDispatch

inductive ProviderAction where
  | registered
  | recovered
  | unhealthy
  | deregistered
deriving DecidableEq, Repr

namespace ProviderAction

def name : ProviderAction → String
  | registered => "registered"
  | recovered => "recovered"
  | unhealthy => "unhealthy"
  | deregistered => "deregistered"

def ofName? (s : String) : Option ProviderAction :=
  [registered, recovered, unhealthy, deregistered].find? fun a => a.name = s

end ProviderAction

inductive Event where
  | enqueue (ticket : Ticket) (candidates : List String) (time : Time)
  | scheduled (ticket : Ticket) (model provider : String) (priority : Priority)
      (waitedMs : Nat) (time : Time)
  | complete (ticket : Ticket) (model : String) (status : Status) (error : Option String)
      (time : Time)
  | provider (id : String) (action : ProviderAction) (time : Time)
deriving DecidableEq

namespace Event

def ofTask (t : Task) (now : Time) : Event :=
  enqueue t.ticket (t.candidates.map Candidate.model) now

def ticket? : Event → Option Ticket
  | enqueue t .. | scheduled t .. | complete t .. => some t
  | provider .. => none

def provider? : Event → Option (String × ProviderAction)
  | provider id action _ => some (id, action)
  | _ => none

def toDatum : Event → Datum
  | enqueue ticket candidates time =>
    .fields [("event", .text "enqueue"), ("ticket", .count ticket),
      ("candidates", .each .text candidates), ("at", .count time)]
  | scheduled ticket model host priority waitedMs time =>
    .fields [("event", .text "scheduled"), ("ticket", .count ticket), ("model_id", .text model),
      ("provider_id", .text host), ("priority", .text priority.label),
      ("waited_ms", .count waitedMs), ("at", .count time)]
  | complete ticket model status error time =>
    .fields [("event", .text "complete"), ("ticket", .count ticket), ("model_id", .text model),
      ("status", .text status.label), ("error", .maybe .text error), ("at", .count time)]
  | provider id action time =>
    .fields [("event", .text "provider"), ("provider_id", .text id),
      ("action", .text action.name), ("at", .count time)]

def waitMs (waited : Time) : Nat := Whole.saturate (wholeMilliseconds waited)

end Event

/-- What an operation leaves behind: the next state, its answer, and its events, oldest first. -/
structure Effect (σ α : Type) where
  state : σ
  answer : α
  events : List Event

namespace Effect

variable {σ τ α β : Type}

def answerOnly (s : σ) (a : α) : Effect σ α := ⟨s, a, []⟩

def andThen (e : Effect σ α) (f : α → σ → Effect τ β) : Effect τ β :=
  let e' := f e.answer e.state
  ⟨e'.state, e'.answer, e.events ++ e'.events⟩

@[simp] theorem state_andThen (e : Effect σ α) (f : α → σ → Effect τ β) :
    (e.andThen f).state = (f e.answer e.state).state := rfl

@[simp] theorem answer_andThen (e : Effect σ α) (f : α → σ → Effect τ β) :
    (e.andThen f).answer = (f e.answer e.state).answer := rfl

@[simp] theorem events_andThen (e : Effect σ α) (f : α → σ → Effect τ β) :
    (e.andThen f).events = e.events ++ (f e.answer e.state).events := rfl

def map (f : α → β) (e : Effect σ α) : Effect σ β := ⟨e.state, f e.answer, e.events⟩

end Effect

end InferenceDispatch
