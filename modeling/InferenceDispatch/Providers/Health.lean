import InferenceDispatch.Providers.Probe
import InferenceDispatch.Scheduling.Manager

namespace InferenceDispatch

structure HealthSettings where
  intervalSecs : Nat
  probeTimeoutSecs : Nat
  /-- A provider that is unreachable for longer than this is taken out. -/
  removeAfterSecs : Nat
deriving DecidableEq, Repr

namespace HealthSettings

def standard : HealthSettings := ⟨30, 5, 300⟩

def withInterval (s : HealthSettings) (t : Time) : HealthSettings :=
  { s with intervalSecs := max (wholeSeconds t) 1 }

def withRemoveAfter (s : HealthSettings) (t : Time) : HealthSettings :=
  { s with removeAfterSecs := wholeSeconds t }

def interval (s : HealthSettings) : Time := seconds (max s.intervalSecs 1)

def removeAfter (s : HealthSettings) : Time := seconds s.removeAfterSecs

end HealthSettings

structure HealthReport where
  probed : Nat
  healthy : Nat
  unhealthy : Nat
  removed : List String
  /-- The tickets that failed because their last provider was taken out. -/
  failedTickets : List Ticket
deriving DecidableEq, Repr

def HealthReport.empty : HealthReport := ⟨0, 0, 0, [], []⟩

structure Fleet where
  directory : Directory
  manager : Manager
deriving DecidableEq

namespace Fleet

def inDirectory {α : Type} (f : Fleet) (op : Directory → Effect Directory α) : Effect Fleet α :=
  let e := op f.directory
  ⟨{ f with directory := e.state }, e.answer, e.events⟩

def inManager {α : Type} (f : Fleet) (op : Manager → Effect Manager α) : Effect Fleet α :=
  let e := op f.manager
  ⟨{ f with manager := e.state }, e.answer, e.events⟩

/-- Takes a provider out and withdraws the work that waits for it; gives the tickets that fail, or
nothing if the provider is not registered. -/
def remove (id : String) (now : Time) (f : Fleet) : Effect Fleet (Option (List Ticket)) :=
  (f.inDirectory (Directory.deregister id now)).andThen fun gone f =>
    match gone with
    | none => .answerOnly f none
    | some _ => (f.inManager (Manager.withdraw now id)).map some

def noteReachable (id : String) (now : Time) (f : Fleet) (p : TempProvider) : Effect Fleet Unit :=
  let directory := f.directory.update id fun p =>
    { p with isHealthy := true, unhealthySince := none, probedAt := some now }
  ⟨{ f with directory }, (), if p.isHealthy then [] else [.provider id .recovered now]⟩

def noteUnreachable (id : String) (now : Time) (f : Fleet) (p : TempProvider) : Effect Fleet Time :=
  let since := p.unhealthySince.getD now
  let directory := f.directory.update id fun p =>
    { p with isHealthy := false, unhealthySince := some since, probedAt := some now }
  ⟨{ f with directory }, since, if p.isHealthy then [.provider id .unhealthy now] else []⟩

/-- Takes in what one probe found. A provider that left in the meantime is counted and no more. -/
def noteOutcome (settings : HealthSettings) (now : Time) (id : String) (outcome : ProbeOutcome)
    (report : HealthReport) (f : Fleet) : Effect Fleet HealthReport :=
  match outcome with
  | .reachable .. =>
    let report := { report with healthy := report.healthy + 1 }
    match f.directory.get? id with
    | none => .answerOnly f report
    | some p => (f.noteReachable id now p).map fun _ => report
  | .unreachable _ =>
    let report := { report with unhealthy := report.unhealthy + 1 }
    match f.directory.get? id with
    | none => .answerOnly f report
    | some p =>
      (f.noteUnreachable id now p).andThen fun since f =>
        if settings.removeAfter < elapsed since now then
          (f.remove id now).map fun
            | none => report
            | some failed =>
              { report with
                removed := report.removed ++ [id]
                failedTickets := report.failedTickets ++ failed }
        else .answerOnly f report

def noteOutcomes (settings : HealthSettings) (now : Time) (outcomes : List (String × ProbeOutcome))
    (f : Fleet) : Effect Fleet HealthReport :=
  outcomes.foldl
    (fun e o => e.andThen fun report f => f.noteOutcome settings now o.1 o.2 report)
    (.answerOnly f { HealthReport.empty with probed := outcomes.length })

def healthRound (settings : HealthSettings) (now : Time) (probe : TempProvider → ProbeOutcome)
    (f : Fleet) : Effect Fleet HealthReport :=
  f.noteOutcomes settings now (f.directory.list.map fun p => (p.id, probe p))

end Fleet

end InferenceDispatch
