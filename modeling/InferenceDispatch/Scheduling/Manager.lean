import InferenceDispatch.Collections.SortedMap
import InferenceDispatch.Monitoring.Event
import InferenceDispatch.Scheduling.Slots

namespace InferenceDispatch

structure ManagerSettings where
  /-- The longest a result waits to be claimed, and an ended ticket is remembered. -/
  resultLifetime : Time
  defaultSlots : Nat
deriving DecidableEq, Repr

structure TicketState where
  task : TaskId
  status : Status
  model : Option String
  holdsSlot : Bool
  finishedAt : Option Time
deriving DecidableEq

/-- Whether a ticket is still remembered: it has not ended, or not longer ago than the lifetime. -/
def TicketState.isRemembered (s : TicketState) (lifetime now : Time) : Bool :=
  s.finishedAt.all fun at_ => elapsed at_ now ≤ lifetime

structure Result where
  task : Task
  key : QueueKey
  priority : Priority
  waited : Time
  readyAt : Time
deriving DecidableEq

inductive CallOutcome where
  | success
  | failure (reason : String)
deriving DecidableEq, Repr

namespace CallOutcome

def status : CallOutcome → Status
  | success => .completed
  | failure _ => .failed

def error : CallOutcome → Option String
  | success => none
  | failure reason => some reason

end CallOutcome

inductive ManagerFault where
  | noCandidates
  | unknownTicket (ticket : Ticket)
  | wrongStatus (ticket : Ticket) (status : Status)
deriving DecidableEq, Repr

def ManagerFault.message : ManagerFault → String
  | noCandidates => "request has no candidate models"
  | unknownTicket t => "unknown ticket #" ++ Whole.text t
  | wrongStatus t s => "ticket #" ++ Whole.text t ++ " is " ++ s.label

structure Manager where
  issued : Nat
  tickets : Table Ticket TicketState
  results : SortedMap Ticket Result
  slots : SlotTable
  scheduler : Scheduler
deriving DecidableEq

namespace Manager

def empty : Manager := ⟨0, Table.empty, SortedMap.empty, Table.empty, Scheduler.empty⟩

instance : Inhabited Manager := ⟨empty⟩

def status? (m : Manager) (t : Ticket) : Option Status := (m.tickets.get? t).map TicketState.status

def isFinished (m : Manager) (t : Ticket) : Bool := (m.status? t).any (· ≠ .queued)

def pending (m : Manager) : Nat := m.results.size

def workTable (m : Manager) : WorkTable := m.slots.workTable

def registerModel (m : Manager) (model : String) (slots : Nat) : Manager :=
  { m with slots := m.slots.register model slots }

def add (settings : ManagerSettings) (now : Time) (payload : Payload)
    (candidates : List Candidate) (m : Manager) : Effect Manager (Except ManagerFault Ticket) :=
  if candidates.isEmpty then .answerOnly m (.error .noCandidates)
  else
    let ticket := m.issued + 1
    let slots := (candidates.map Candidate.model).foldl
      (fun t model => t.ensure settings.defaultSlots model) m.slots
    let (scheduler, task, _) := m.scheduler.submit ticket payload candidates now
    let tickets := m.tickets.insert ticket ⟨task.id, .queued, none, false, none⟩
    ⟨{ m with issued := ticket, tickets, slots, scheduler }, .ok ticket, [.ofTask task now]⟩

/-- Ends a ticket and returns its slot, if it holds one; gives the model it was scheduled on. -/
def finish (m : Manager) (t : Ticket) (status : Status) (now : Time) : Manager × Option String :=
  match m.tickets.get? t with
  | none => (m, none)
  | some s =>
    match s.model with
    | none =>
      ({ m with tickets := m.tickets.insert t { s with status, finishedAt := some now } }, none)
    | some model =>
      let ended := { s with status, finishedAt := some now, holdsSlot := false }
      ({ m with
         tickets := m.tickets.insert t ended
         slots := if s.holdsSlot then m.slots.release model else m.slots }, some model)

def close (m : Manager) (t : Ticket) (status : Status) (now : Time) : Manager × Option String :=
  { m with results := m.results.erase t }.finish t status now

def expireResult (now : Time) (m : Manager) (t : Ticket) : Effect Manager Unit :=
  let (m, model?) := m.close t .expired now
  ⟨m, (), model?.toList.map fun model => .complete t model .expired none now⟩

def staleResults (m : Manager) (lifetime now : Time) : List Ticket :=
  (m.results.entries.filter fun e => lifetime < elapsed e.2.readyAt now).map Prod.fst

def expireResults (now : Time) (ts : List Ticket) (m : Manager) : Effect Manager Unit :=
  ts.foldl (fun e t => e.andThen fun _ m => expireResult now m t) (.answerOnly m ())

def forget (m : Manager) (lifetime now : Time) : Manager :=
  { m with tickets := m.tickets.filter fun _ s => s.isRemembered lifetime now }

def expire (settings : ManagerSettings) (now : Time) (m : Manager) : Effect Manager Unit :=
  let swept := expireResults now (m.staleResults settings.resultLifetime now) m
  { swept with state := swept.state.forget settings.resultLifetime now }

/-- Gives a scheduled entry a slot of its model and lays out its result. -/
def assign (now : Time) (w : Scheduled) (m : Manager) : Effect Manager Bool :=
  let t := w.task.ticket
  let (slots, holdsSlot) := m.slots.take w.key.model
  let tickets := m.tickets.modify t fun s =>
    { s with status := .scheduled, model := some w.key.model, holdsSlot }
  let results := m.results.insert t ⟨w.task, w.key, w.priority, w.waited, now⟩
  ⟨{ m with tickets, results, slots }, true,
    [.scheduled t w.key.model w.key.provider w.priority (Event.waitMs w.waited) now]⟩

section Tick

variable {α : Type} [OfScientific α] [Add α] [Sub α] [Mul α] [LE α] [LT α]
  [DecidableLE α] [DecidableLT α]

def tick (strategy : Strategy α) (gate : Gate) (settings : ManagerSettings) (now : Time)
    (m : Manager) : Effect Manager Bool :=
  (m.expire settings now).andThen fun _ m =>
    if m.scheduler.queue.isEmpty then .answerOnly m false
    else
      match m.scheduler.schedule strategy gate m.workTable now with
      | none => .answerOnly m false
      | some (w, scheduler) => { m with scheduler }.assign now w

def tickRepeatedly (strategy : Strategy α) (gate : Gate) (settings : ManagerSettings) (now : Time) :
    (bound : Nat) → Manager → Effect Manager Unit
  | 0, m => .answerOnly m ()
  | bound + 1, m =>
    (m.tick strategy gate settings now).andThen fun scheduled m =>
      if scheduled then tickRepeatedly strategy gate settings now bound m else .answerOnly m ()

/-- Repeats the pass until nothing more can be scheduled. Every pass that schedules takes an entry
out of the queue, so the depth of the queue bounds their number. -/
def drain (strategy : Strategy α) (gate : Gate) (settings : ManagerSettings) (now : Time)
    (m : Manager) : Effect Manager Unit :=
  tickRepeatedly strategy gate settings now (m.scheduler.queue.depth + 1) m

end Tick

def getResult (m : Manager) : Manager × Option (Ticket × Result) :=
  match m.results.popFirst? with
  | some (r, results) => ({ m with results }, some r)
  | none => (m, none)

def takeResult (m : Manager) (t : Ticket) : Manager × Option Result :=
  ({ m with results := m.results.erase t }, m.results.get? t)

inductive Look where
  | ready (r : Result)
  | notYet
  /-- No result will come: the ticket is unknown, or its result was claimed or has expired. -/
  | never
deriving DecidableEq

/-- One look of a submitter that waits for the result of its ticket, and claims it if it is there.
The submitter looks again until it finds something else than `notYet`, or its time is up. -/
def look (m : Manager) (t : Ticket) : Manager × Look :=
  match m.takeResult t with
  | (m, some r) => (m, .ready r)
  | (m, none) => (m, if m.status? t = some .queued then .notYet else .never)

def holders (m : Manager) (model : String) : List Ticket :=
  (m.tickets.entries.filter fun e => e.2.holdsSlot && e.2.model = some model).map Prod.fst

/-- The ticket a freed slot of a model is taken from: of those that hold one, the lowest whose
result was claimed, else the lowest. -/
def slotHolder? (m : Manager) (model : String) : Option Ticket :=
  let claimed := (m.holders model).filter fun t => !m.results.contains t
  claimed.min?.or (m.holders model).min?

def setFree (now : Time) (model : String) (m : Manager) : Effect Manager Bool :=
  match m.slotHolder? model with
  | none => .answerOnly m false
  | some t =>
    let (m, _) := m.close t .completed now
    ⟨m, true, [.complete t model .completed none now]⟩

def complete (now : Time) (t : Ticket) (outcome : CallOutcome) (m : Manager) :
    Effect Manager (Except ManagerFault Status) :=
  match m.status? t with
  | none => .answerOnly m (.error (.unknownTicket t))
  | some .scheduled =>
    let (m, model?) := m.close t outcome.status now
    ⟨m, .ok outcome.status, [.complete t (model?.getD "") outcome.status outcome.error now]⟩
  | some s => .answerOnly m (.error (.wrongStatus t s))

def orphan (now : Time) (task : Task) (m : Manager) : Effect Manager (Option Ticket) :=
  match m.tickets.get? task.ticket with
  | none => .answerOnly m none
  | some s =>
    let model := (task.candidates.head?.map Candidate.model).getD ""
    let ended := { s with status := .failed, finishedAt := some now }
    ⟨{ m with tickets := m.tickets.insert task.ticket ended },
      some task.ticket, [.complete task.ticket model .failed (some "provider removed") now]⟩

def withdraw (now : Time) (provider : String) (m : Manager) : Effect Manager (List Ticket) :=
  let (scheduler, orphans) := m.scheduler.withdraw provider
  orphans.foldl
    (fun e task => e.andThen fun failed m => (m.orphan now task).map fun t => failed ++ t.toList)
    (Effect.answerOnly { m with scheduler } [])

def cancel (m : Manager) (t : Ticket) : Manager × Bool :=
  match m.tickets.get? t with
  | some s =>
    if s.status = .queued then
      ({ m with scheduler := (m.scheduler.cancel s.task).1, tickets := m.tickets.erase t }, true)
    else (m, false)
  | none => (m, false)

end Manager

end InferenceDispatch
