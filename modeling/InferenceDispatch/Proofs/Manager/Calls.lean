import InferenceDispatch.Proofs.Runs
import InferenceDispatch.Scheduling.Manager

namespace InferenceDispatch

namespace Manager

/-- What a manager can be asked. Time passes between the calls. Each pass has its own reports from
the providers. -/
inductive Call where
  | registerModel (model : String) (slots : Nat)
  | add (payload : Payload) (candidates : List Candidate)
  | tick (gate : Gate)
  | getResult
  | takeResult (ticket : Ticket)
  | look (ticket : Ticket)
  | setFree (model : String)
  | complete (ticket : Ticket) (outcome : CallOutcome)
  | withdraw (provider : String)
  | cancel (ticket : Ticket)
  | move (entry : EntryId) (tier : Priority)
  | advance (span : Time)

inductive Answer where
  | done
  | admitted (r : Except ManagerFault Ticket)
  | passed (scheduled : Bool)
  | claimed (r : Option (Ticket × Result))
  | freed (found : Bool)
  | completed (r : Except ManagerFault Status)
  | withdrawn (failed : List Ticket)
  | cancelled (found : Bool)
  | moved (there : Bool)

namespace Answer

def issued : Answer → List Ticket
  | admitted (.ok t) => [t]
  | _ => []

def handed : Answer → List Ticket
  | claimed (some (t, _)) => [t]
  | _ => []

theorem mem_issued {a : Answer} {t : Ticket} : t ∈ a.issued ↔ a = admitted (.ok t) := by
  unfold issued
  split
  next => simp [eq_comm]
  next other => exact iff_of_false List.not_mem_nil (other t)

theorem mem_handed {a : Answer} {t : Ticket} : t ∈ a.handed ↔ ∃ r, a = claimed (some (t, r)) := by
  unfold handed
  split
  next => simp [eq_comm]
  next other => exact iff_of_false List.not_mem_nil fun ⟨r, h⟩ => other t r h

end Answer

def Look.result? : Look → Option Result
  | ready r => some r
  | notYet | never => none

def Call.MovesElsewhere (q : Queue) : Call → Prop
  | move entry tier => ∀ e ∈ q.entries, e.id = entry → e.tier ≠ tier
  | _ => True

section Perform

variable {α : Type} [OfScientific α] [Add α] [Sub α] [Mul α] [LE α] [LT α]
  [DecidableLE α] [DecidableLT α]

def Call.run (strategy : Strategy α) (settings : ManagerSettings) (now : Time) (m : Manager) :
    Call → Except Queue.MoveFault (Effect Manager Answer)
  | registerModel model slots => .ok (.answerOnly (m.registerModel model slots) .done)
  | add payload candidates => .ok ((m.add settings now payload candidates).map .admitted)
  | tick gate => .ok ((m.tick strategy gate settings now).map .passed)
  | getResult =>
    let (m, r) := m.getResult
    .ok (.answerOnly m (.claimed r))
  | takeResult t =>
    let (m, r) := m.takeResult t
    .ok (.answerOnly m (.claimed (r.map fun r => (t, r))))
  | look t =>
    let (m, found) := m.look t
    .ok (.answerOnly m (.claimed (found.result?.map fun r => (t, r))))
  | setFree model => .ok ((m.setFree now model).map .freed)
  | complete t outcome => .ok ((m.complete now t outcome).map .completed)
  | withdraw provider => .ok ((m.withdraw now provider).map .withdrawn)
  | cancel t =>
    let (m, found) := m.cancel t
    .ok (.answerOnly m (.cancelled found))
  | move entry tier =>
    (m.scheduler.queue.move entry tier now).map fun (queue, there) =>
      .answerOnly { m with scheduler := { m.scheduler with queue } } (.moved there)
  | advance _ => .ok (.answerOnly m .done)

def Call.span : Call → Time
  | advance span => span
  | _ => 0

def Call.perform (strategy : Strategy α) (settings : ManagerSettings) (c : Call)
    (s : Clocked Manager) : Except Queue.MoveFault (Effect (Clocked Manager) Answer) :=
  (c.run strategy settings s.now s.state).map fun e =>
    ⟨⟨s.now + c.span, e.state⟩, e.answer, e.events⟩

end Perform

/-- How a ticket stands: its status and the model it was scheduled on, if it is known, and its result,
if that waits to be claimed. -/
abbrev Standing := Option (Status × Option String) × Option Result

def standing (m : Manager) (t : Ticket) : Standing :=
  ((m.tickets.get? t).map fun s => (s.status, s.model), m.results.get? t)

/-- How a ticket may come to stand after a call, by how it stood before. -/
inductive Passage (t : Ticket) : Call → Answer → (before after : Standing) → Prop
  | stays {c answer standing} : t ∉ answer.issued → t ∉ answer.handed →
      Passage t c answer standing standing
  | issued {payload candidates} : Passage t (.add payload candidates) (.admitted (.ok t))
      (none, none) (some (.queued, none), none)
  | scheduled {gate model? r} : Passage t (.tick gate) (.passed true)
      (some (.queued, model?), none) (some (.scheduled, some r.key.model), some r)
  | claimed {c model? r} : c = .getResult ∨ c = .takeResult t ∨ c = .look t →
      Passage t c (.claimed (some (t, r))) (some (.scheduled, model?), some r)
        (some (.scheduled, model?), none)
  | expired {gate scheduled model? r} : Passage t (.tick gate) (.passed scheduled)
      (some (.scheduled, model?), some r) (some (.expired, model?), none)
  | forgotten {gate scheduled status model?} : status.isTerminal →
      Passage t (.tick gate) (.passed scheduled) (some (status, model?), none) (none, none)
  | freed {model r?} : Passage t (.setFree model) (.freed true)
      (some (.scheduled, some model), r?) (some (.completed, some model), none)
  | completed {outcome model? r?} :
      Passage t (.complete t outcome) (.completed (.ok outcome.status))
        (some (.scheduled, model?), r?) (some (outcome.status, model?), none)
  | orphaned {provider failed model?} : t ∈ failed →
      Passage t (.withdraw provider) (.withdrawn failed)
        (some (.queued, model?), none) (some (.failed, model?), none)
  | cancelled {model?} : Passage t (.cancel t) (.cancelled true)
      (some (.queued, model?), none) (none, none)

end Manager

end InferenceDispatch
