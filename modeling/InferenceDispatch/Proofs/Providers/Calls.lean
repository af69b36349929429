import InferenceDispatch.Proofs.Manager.Calls
import InferenceDispatch.Providers.Discovery
import InferenceDispatch.Providers.Health

namespace InferenceDispatch

namespace Fleet

/-- What can be asked. New providers come with the id that was made for them. -/
inductive Call where
  | manage (call : Manager.Call)
  | register (id : String) (r : Registration)
  /-- A registration that asks the server for its models if it names none. -/
  | registerDiscovered (id : String) (net : Http.Network) (r : Registration)
  | setModels (id : String) (models : List String)
  | deregister (id : String)
  | deregisterOwner (owner : Nat)
  /-- The end of a health round, which takes in what the probes found. Other calls may have been made
  while the probes ran. -/
  | healthRound (found : List (String × ProbeOutcome))

inductive Answer where
  | managed (a : Manager.Answer)
  | registered (p : TempProvider)
  | relisted (known : Bool)
  | left (p : Option TempProvider)
  | ownerLeft (ps : List TempProvider)
  | rounded (r : HealthReport)

def Call.newId? : Call → Option String
  | register id _ | registerDiscovered id .. => some id
  | manage _ | setModels .. | deregister _ | deregisterOwner _ | healthRound _ => none

variable {α : Type} [OfScientific α] [Add α] [Sub α] [Mul α] [LE α] [LT α]
  [DecidableLE α] [DecidableLT α]

def Call.run (strategy : Strategy α) (settings : ManagerSettings) (health : HealthSettings)
    (now : Time) (f : Fleet) : Call → Except Queue.MoveFault (Effect Fleet Answer)
  | manage c => (c.run strategy settings now f.manager).map fun e =>
    ⟨{ f with manager := e.state }, .managed e.answer, e.events⟩
  | register id r => .ok ((f.inDirectory (Directory.register id r now)).map .registered)
  | registerDiscovered id net r =>
    .ok ((f.inDirectory (Directory.register id (Discovery.complete net r) now)).map .registered)
  | setModels id models =>
    let (directory, known) := f.directory.setModels id models
    .ok (.answerOnly { f with directory } (.relisted known))
  | deregister id => .ok ((f.inDirectory (Directory.deregister id now)).map .left)
  | deregisterOwner owner =>
    .ok ((f.inDirectory (Directory.deregisterOwner owner now)).map .ownerLeft)
  | healthRound found => .ok ((f.noteOutcomes health now found).map .rounded)

def Call.span : Call → Time
  | manage c => c.span
  | register .. | registerDiscovered .. | setModels .. | deregister _ | deregisterOwner _
  | healthRound _ => 0

def Call.perform (strategy : Strategy α) (settings : ManagerSettings) (health : HealthSettings)
    (c : Call) (s : Clocked Fleet) : Except Queue.MoveFault (Effect (Clocked Fleet) Answer) :=
  (c.run strategy settings health s.now s.state).map fun e =>
    ⟨⟨s.now + c.span, e.state⟩, e.answer, e.events⟩

def idle (catalog : Catalog Double) : Fleet := ⟨.ofCatalog catalog, .empty⟩

variable {strategy : Strategy α} {settings : ManagerSettings} {health : HealthSettings}
  {s : Clocked Fleet} {e : Effect (Clocked Fleet) Answer}

theorem perform_manage {c : Manager.Call}
    (hc : Call.perform strategy settings health (.manage c) s = .ok e) :
    ∃ e', c.perform strategy settings ⟨s.now, s.state.manager⟩ = .ok e' ∧
      e.state.state = { s.state with manager := e'.state.state } := by
  obtain ⟨_, hrun, rfl⟩ := except_map_eq_ok_iff.mp hc
  obtain ⟨r, hr, rfl⟩ := except_map_eq_ok_iff.mp hrun
  exact ⟨_, except_map_eq_ok_iff.mpr ⟨r, hr, rfl⟩, rfl⟩

end Fleet

end InferenceDispatch
