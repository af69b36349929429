import InferenceDispatch.Data.Datum
import InferenceDispatch.Priority

namespace InferenceDispatch

abbrev Ticket := Nat

/-- The number of a task, distinct for every task ever made. -/
abbrev TaskId := Nat

/-- A request body. It is carried along and never looked at. -/
abbrev Payload := String

structure Candidate where
  model : String
  provider : String
  weight : Double
  priority : Priority
deriving DecidableEq

structure Task where
  id : TaskId
  ticket : Ticket
  payload : Payload
  candidates : List Candidate
deriving DecidableEq

def Task.candidateFor? (t : Task) (model : String) : Option Candidate :=
  t.candidates.find? fun c => c.model = model

inductive Status where
  | queued
  | scheduled
  | completed
  | failed
  | expired
deriving DecidableEq, Repr, Inhabited

namespace Status

def all : List Status := [queued, scheduled, completed, failed, expired]

def isTerminal : Status → Bool
  | queued | scheduled => false
  | completed | failed | expired => true

def label : Status → String
  | queued => "queued"
  | scheduled => "scheduled"
  | completed => "completed"
  | failed => "failed"
  | expired => "expired"

def ofLabel? (s : String) : Option Status := all.find? fun t => t.label = s

def ofDatum? : Datum → Option Status := Datum.asChoice? Datum.isNull ofLabel?

end Status

end InferenceDispatch
