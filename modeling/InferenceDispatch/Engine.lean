import InferenceDispatch.Admission
import InferenceDispatch.Config.Settings
import InferenceDispatch.Providers.Discovery
import InferenceDispatch.Telemetry.Facades

namespace InferenceDispatch

structure EngineSettings where
  strategy : Strategy Double
  asksFacades : Bool
  pollInterval : Time
  manager : ManagerSettings
  classifier : ClassifierSettings Double
  health : HealthSettings
deriving DecidableEq

structure Engine where
  settings : EngineSettings
  fleet : Fleet
  facades : Facades
  /-- When the next health round is due, if the health monitor runs. -/
  nextRound : Option Time

namespace Engine

def idle (settings : EngineSettings) (catalog : Catalog Double) (azure : Azure) : Engine :=
  ⟨settings, ⟨.ofCatalog catalog, .empty⟩, .ofAzure azure, none⟩

def addProvider (ollama : OllamaSettings) (f : Facades) (p : ProviderEntry) : Facades :=
  match p.kind with
  | .azure =>
    let azure := p.deployments.entries.foldl (fun a e => a.deploy e.1 ⟨p.id, e.2⟩) f.azure
    { f with azure }.register p.id .azure
  | .ollama => f.addHost (.ofAddress p.id (p.url.getD "") ollama true)

inductive BuildFault where
  | unfit (fault : Config.Fault)
  | noAddress (provider : String)

/-- Enters a configured provider into the facades, unless it has to be polled and has no address. -/
def enterProvider (ollama : OllamaSettings) (f : Facades) (p : ProviderEntry) :
    Except BuildFault Facades :=
  if p.kind = .ollama ∧ p.url = none then .error (.noAddress p.id) else .ok (addProvider ollama f p)

def around (c : Config) (facades : Facades) : Engine :=
  let settings : EngineSettings :=
    { strategy := c.loop.strategy.strategy c.scoring
      asksFacades := true
      pollInterval := c.loop.pollInterval
      manager := c.loop.manager
      classifier := c.classifier
      health := c.health }
  let e := idle settings (.ofDescriptors c.models) facades.azure
  { e with
    facades
    fleet := { e.fleet with
      manager := c.models.foldl (fun m d => m.registerModel d.model d.slots) e.fleet.manager } }

def ofConfig (c : Config) : Except BuildFault Engine :=
  match c.fault? with
  | some fault => .error (.unfit fault)
  | none =>
    (c.providers.foldlM (enterProvider c.ollama) (.ofAzure (.ofThreshold c.capacityThreshold))).map
      (around c)

def buildMessage : BuildFault → String
  | .unfit fault => "Invalid configuration: " ++ fault.message
  | .noAddress id => "Ollama provider '" ++ id ++ "' has no url"

def manager (e : Engine) : Manager := e.fleet.manager

def scheduler (e : Engine) : Scheduler := e.manager.scheduler

def queue (e : Engine) : Queue := e.scheduler.queue

def directory (e : Engine) : Directory := e.fleet.directory

def catalog (e : Engine) : Catalog Double := e.directory.catalog

def withManager (e : Engine) (manager : Manager) : Engine :=
  { e with fleet := { e.fleet with manager } }

def withScheduler (e : Engine) (scheduler : Scheduler) : Engine :=
  e.withManager { e.manager with scheduler }

def withQueue (e : Engine) (queue : Queue) : Engine :=
  e.withScheduler { e.scheduler with queue }

def withDirectory (e : Engine) (directory : Directory) : Engine :=
  { e with fleet := { e.fleet with directory } }

def inFleet {α : Type} (e : Engine) (op : Fleet → Effect Fleet α) : Effect Engine α :=
  let r := op e.fleet
  ⟨{ e with fleet := r.state }, r.answer, r.events⟩

def inManager {α : Type} (e : Engine) (op : Manager → Effect Manager α) : Effect Engine α :=
  e.inFleet fun f => f.inManager op

def inDirectory {α : Type} (e : Engine) (op : Directory → Effect Directory α) : Effect Engine α :=
  e.inFleet fun f => f.inDirectory op

def gate (e : Engine) : Gate :=
  if e.settings.asksFacades then e.facades.gate e.queue else .unguarded

def classify (e : Engine) (policy : Policy Double) (strict : Bool) : List (Classified Double) :=
  InferenceDispatch.classify Double.exp e.settings.classifier.steepness strict e.catalog policy

def plan (e : Engine) (field : String) (priority : Priority) :
    Except ModelString.Fault Admission.Plan :=
  Admission.plan e.catalog e.settings.classifier field priority

def add (payload : Payload) (candidates : List Candidate) (now : Time) (e : Engine) :
    Effect Engine (Except ManagerFault Ticket) :=
  e.inManager (Manager.add e.settings.manager now payload candidates)

def tick (now : Time) (e : Engine) : Effect Engine Bool :=
  e.inManager (Manager.tick e.settings.strategy e.gate e.settings.manager now)

def drain (now : Time) (e : Engine) : Effect Engine Unit :=
  e.inManager (Manager.drain e.settings.strategy e.gate e.settings.manager now)

def noteOutcomes (now : Time) (outcomes : List (String × ProbeOutcome)) (e : Engine) :
    Effect Engine HealthReport :=
  e.inFleet (Fleet.noteOutcomes e.settings.health now outcomes)

def healthRound (net : Http.Network) (now : Time) (e : Engine) : Effect Engine HealthReport :=
  e.inFleet (Fleet.healthRound e.settings.health now (Probe.run net))

def isMonitored (e : Engine) : Bool := e.nextRound.isSome

def isRoundDue (e : Engine) (now : Time) : Bool := e.nextRound.any (· ≤ now)

/-- Starts the health monitor unless it runs; the first round is due at once. -/
def startHealth (now : Time) (e : Engine) : Engine :=
  { e with nextRound := e.nextRound.or (some now) }

/-- Puts the next health round behind the one that runs now. -/
def planRound (now : Time) (e : Engine) : Engine :=
  { e with nextRound := e.nextRound.map fun due => nextDue e.settings.health.interval due now }

def stopHealth (e : Engine) : Engine := { e with nextRound := none }

def loopPeriods (e : Engine) : List Time :=
  e.settings.pollInterval :: e.settings.health.interval ::
    e.facades.hosts.map fun o => o.settings.refreshInterval

/-- Lets the background loops run: telemetry is refreshed, a health round is run if one is due, and
everything that can be scheduled is. -/
def runLoops (net : Http.Network) (now : Time) (e : Engine) : Effect Engine Unit :=
  let e := { e with facades := e.facades.refreshAll net now }
  let round : Effect Engine Unit :=
    if e.isRoundDue now then ((e.planRound now).healthRound net now).map fun _ => ()
    else .answerOnly e ()
  round.andThen fun _ e => e.drain now

def start (net : Http.Network) (now : Time) (e : Engine) : Effect Engine Unit :=
  (e.startHealth now).runLoops net now

def isLoaded (e : Engine) (model provider : String) : Bool :=
  (e.facades.report? e.queue model provider).any ModelReport.isLoaded

end Engine

end InferenceDispatch
