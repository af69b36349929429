import InferenceDispatch.Collections.SortedMap
import InferenceDispatch.Monitoring.Event
import InferenceDispatch.Monitoring.Histogram

namespace InferenceDispatch

/-- A value that goes up and down and never below zero. -/
abbrev Gauge := Nat

namespace Gauge

def inc (g : Gauge) : Gauge := g + 1

def dec (g : Gauge) : Gauge := g - 1

end Gauge

structure Metrics where
  enqueued : Nat
  scheduled : Nat
  completed : Nat
  failed : Nat
  expired : Nat
  /-- Requests that hold a slot. -/
  inFlight : Gauge
  waits : Histogram Double
  providerFailures : Nat
  providersRemoved : Nat
  perModel : SortedMap String Nat

namespace Metrics

def empty : Metrics := ⟨0, 0, 0, 0, 0, 0, .ofBounds waitBounds, 0, 0, .empty⟩

instance : Inhabited Metrics := ⟨empty⟩

def observe (m : Metrics) : Event → Metrics
  | .enqueue .. => { m with enqueued := m.enqueued + 1 }
  | .scheduled _ model _ _ waitedMs _ =>
    { m with
      scheduled := m.scheduled + 1
      inFlight := Gauge.inc m.inFlight
      waits := m.waits.record (.ofNat waitedMs)
      perModel := m.perModel.insert model ((m.perModel.get? model).getD 0 + 1) }
  | .complete _ _ status _ _ =>
    match status with
    | .completed => { m with completed := m.completed + 1, inFlight := Gauge.dec m.inFlight }
    | .failed => { m with failed := m.failed + 1, inFlight := Gauge.dec m.inFlight }
    | .expired => { m with expired := m.expired + 1, inFlight := Gauge.dec m.inFlight }
    | .queued | .scheduled => m
  | .provider _ action _ =>
    match action with
    | .unhealthy => { m with providerFailures := m.providerFailures + 1 }
    | .deregistered => { m with providersRemoved := m.providersRemoved + 1 }
    | .registered | .recovered => m

def observeAll (m : Metrics) (es : List Event) : Metrics := es.foldl observe m

def wait (m : Metrics) (p : Double) : Double := (m.waits.snapshot.percentile? p).getD 0

end Metrics

inductive Sink where
  | metrics
  | journal
  | broken (reason : String)
deriving DecidableEq, Repr

structure SinkFault where
  reason : String
deriving DecidableEq, Repr

def SinkFault.message (f : SinkFault) : String := "monitoring write failed: " ++ f.reason

def Sink.write (s : Sink) (e : Event) (m : Metrics) : Metrics × Option SinkFault :=
  match s with
  | metrics => (m.observe e, none)
  | journal => (m, none)
  | broken reason => (m, some ⟨reason⟩)

/-- Writes an event to every sink, whatever happens in the others; gives the first fault. -/
def Sink.writeAll (sinks : List Sink) (e : Event) (m : Metrics) : Metrics × Option SinkFault :=
  sinks.foldl
    (fun (m, first) s => let (m, fault) := s.write e m; (m, first.or fault)) (m, none)

end InferenceDispatch
