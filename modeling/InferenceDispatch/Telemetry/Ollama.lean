import InferenceDispatch.Collections.SortedMap
import InferenceDispatch.Http.Exchange
import InferenceDispatch.Text.Blank
import InferenceDispatch.Telemetry.Report

namespace InferenceDispatch

structure OllamaSettings where
  totalVramMb : Nat
  refreshIntervalMs : Nat
  requestTimeoutMs : Nat
deriving DecidableEq, Repr

namespace OllamaSettings

def standard : OllamaSettings := ⟨16384, 5000, 5000⟩

def refreshInterval (s : OllamaSettings) : Time := milliseconds s.refreshIntervalMs

end OllamaSettings

structure ListedModel where
  name : String
  otherName : Option String
  vramBytes : Nat
  expiresAt : Option String
deriving DecidableEq, Repr

namespace ListedModel

def ofDatum? (d : Datum) : Option ListedModel := do
  let r ← d.asRecord? ["name", "model", "size_vram", "expires_at"] false
  pure
    { name := ← r.required "name" Datum.asText?
      otherName := ← r.optional "model" Datum.asText?
      vramBytes := ← r.defaulted "size_vram" Datum.asCount? 0
      expiresAt := ← r.optional "expires_at" Datum.asText? }

def listing? (body : String) : Option (List ListedModel) := do
  let r ← (← Json.read? body).asRecord? ["models"] false
  r.defaulted "models" (Datum.asList? ofDatum?) []

end ListedModel

structure LoadedModel where
  vramMb : Nat
  expiresAt : Option Timestamp
deriving DecidableEq, Repr

def bytesPerMb : Nat := 1048576

def ListedModel.loaded (m : ListedModel) : LoadedModel :=
  ⟨m.vramBytes / bytesPerMb, m.expiresAt.bind Timestamp.read?⟩

structure Ollama where
  provider : String
  address : String
  settings : OllamaSettings
  showsQueue : Bool
  loaded : SortedMap String LoadedModel
  /-- Other names, each with the name it stands for. -/
  aliases : Table String String
  /-- The memory every model took when it was last loaded, in megabytes. -/
  lastVram : Table String Nat
  refreshedAt : Option Time
  failures : Nat
deriving DecidableEq

namespace Ollama

def ofAddress (provider address : String) (settings : OllamaSettings) (showsQueue : Bool) :
    Ollama :=
  { provider, settings, showsQueue
    address := Text.trimEnd '/' address
    loaded := SortedMap.empty
    aliases := Table.empty
    lastVram := Table.empty
    refreshedAt := none
    failures := 0 }

def applyListing (o : Ollama) (models : List ListedModel) (now : Time) : Ollama :=
  let loaded := SortedMap.ofList (models.map fun m => (m.name, m.loaded))
  let aliases := Table.ofList (models.filterMap fun m =>
    (m.otherName.filter (· ≠ m.name)).map fun a => (a, m.name))
  let sizes := loaded.entries.map fun e => (e.1, e.2.vramMb)
  let aliasSizes := aliases.entries.filterMap fun e =>
    (loaded.get? e.2).map fun m => (e.1, m.vramMb)
  { o with
    loaded, aliases
    lastVram := (sizes ++ aliasSizes).foldl (fun t e => t.insert e.1 e.2) o.lastVram
    refreshedAt := some now
    failures := 0 }

inductive Refresh where
  | updated (models : Nat)
  | stale (reason : String)
deriving DecidableEq, Repr

def listingUrl (o : Ollama) : String := o.address ++ "/api/ps"

def listingOf : Except Http.Fault Http.Response → Except String (List ListedModel)
  | .error fault => .error fault.message
  | .ok response =>
    if Http.isSuccess response.status then
      ((ListedModel.listing? response.body).map Except.ok).getD (.error Http.undecodable)
    else .error ("Ollama returned " ++ Http.statusText response.status)

def refresh (o : Ollama) (net : Http.Network) (now : Time) : Ollama × Refresh :=
  match listingOf (Http.fetch net o.listingUrl none) with
  | .ok models => (o.applyListing models now, .updated models.length)
  | .error reason => ({ o with failures := o.failures + 1 }, .stale reason)

/-- Memory taken by the loaded models, in a word of 64 bits. -/
def usedVram (o : Ollama) : Nat := o.loaded.values.foldl (fun n m => Whole.wrap (n + m.vramMb)) 0

def availableVram (o : Ollama) : Nat := o.settings.totalVramMb - o.usedVram

def spellings (model : String) : List String := [model, model ++ ":latest"]

/-- The loaded model behind a name: under each spelling in turn, its own name or an alias. -/
def resolve? (o : Ollama) (model : String) : Option String :=
  (spellings model).findSome? fun s => if o.loaded.contains s then some s else o.aliases.get? s

def resident? (o : Ollama) (model : String) : Option LoadedModel :=
  (o.resolve? model).bind o.loaded.get?

def knownVram? (o : Ollama) (model : String) : Option Nat :=
  (spellings model).findSome? o.lastVram.get?

def telemetry (o : Ollama) (model : String) : Telemetry :=
  .memory o.settings.totalVramMb o.availableVram
    (((o.resident? model).map LoadedModel.vramMb).getD 0) o.loaded.keys
    ((o.resident? model).bind LoadedModel.expiresAt)

/-- Whether a model can run: it is loaded, or there is room for it. A model of unknown size needs
some room. -/
def capacity (o : Ollama) (model : String) : CapacityReport :=
  ⟨(o.resident? model).isSome || max ((o.knownVram? model).getD 0) 1 ≤ o.availableVram,
    o.telemetry model⟩

def report (o : Ollama) (q : Queue) (model : String) : ModelReport :=
  ⟨(o.resident? model).isSome,
    if o.showsQueue then some (q.counts ⟨model, o.provider⟩) else none, o.telemetry model⟩

end Ollama

end InferenceDispatch
