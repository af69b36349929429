import InferenceDispatch.Scheduling.Strategy
import InferenceDispatch.Telemetry.Azure
import InferenceDispatch.Telemetry.Ollama
import InferenceDispatch.Text.Quoted

namespace InferenceDispatch

inductive Facade where
  | azure
  | ollama (host : Nat)
deriving DecidableEq, Repr

structure Facades where
  azure : Azure
  hosts : List Ollama
  routes : Table String Facade
deriving DecidableEq

namespace Facades

def ofAzure (azure : Azure) : Facades := ⟨azure, [], Table.empty⟩

def register (f : Facades) (provider : String) (facade : Facade) : Facades :=
  { f with routes := f.routes.insert provider facade }

def unregister (f : Facades) (provider : String) : Facades × Bool :=
  ({ f with routes := f.routes.erase provider }, f.routes.contains provider)

def addHost (f : Facades) (o : Ollama) : Facades :=
  { f with hosts := f.hosts ++ [o] }.register o.provider (.ollama f.hosts.length)

def hostOf? (f : Facades) (provider : String) : Option Nat :=
  f.hosts.findIdx? fun o => o.provider = provider

/-- Polls every host, except those with no time between two polls: a loop needs a period to run. -/
def refreshAll (f : Facades) (net : Http.Network) (now : Time) : Facades :=
  { f with hosts := f.hosts.map fun o =>
      if 0 < o.settings.refreshInterval then (o.refresh net now).1 else o }

structure Answering where
  name : String
  report : Queue → (model : String) → ModelReport
  capacity : (deployment : String) → CapacityReport
  deploymentOf : (model : String) → String

def answering? (f : Facades) (provider : String) : Option Answering :=
  (f.routes.get? provider).bind fun
    | .azure => some
      { name := "azure"
        report := f.azure.report
        capacity := fun deployment => f.azure.capacity ⟨provider, deployment⟩
        deploymentOf := f.azure.deploymentOf }
    | .ollama host => f.hosts[host]?.map fun o =>
      { name := "ollama"
        report := o.report
        capacity := o.capacity
        deploymentOf := id }

def report? (f : Facades) (q : Queue) (model provider : String) : Option ModelReport :=
  (f.answering? provider).map fun a => a.report q model

def capacity? (f : Facades) (provider deployment : String) : Option CapacityReport :=
  (f.answering? provider).map fun a => a.capacity deployment

/-- Whether a provider takes work for a model; providers without a facade always do. -/
def hasCapacity (f : Facades) (model provider : String) : Bool :=
  (f.answering? provider).all fun a => (a.capacity (a.deploymentOf model)).hasCapacity

/-- The gate of the scheduler: capacity as reported, and a model is cold if its facade says that it
is not loaded. -/
def gate (f : Facades) (q : Queue) : Gate where
  admitsWork key := f.hasCapacity key.model key.provider
  isCold key := (f.report? q key.model key.provider).any fun r => !r.isLoaded

def providers (f : Facades) : List String := f.routes.keys

def shown (f : Facades) : String :=
  Text.record "SdiRegistry" [("providers", Text.bracketed (f.providers.map Text.quoted))]

end Facades

end InferenceDispatch
