import InferenceDispatch.Classification.Catalog
import InferenceDispatch.Collections.Table
import InferenceDispatch.Monitoring.Event
import InferenceDispatch.Text.Blank
import InferenceDispatch.Text.Quoted

namespace InferenceDispatch

structure Registration where
  name : String
  url : String
  key : Option String
  owner : Option Nat
  models : List String
deriving DecidableEq, Repr

/-- A registration with an address, which loses the slashes at its end. -/
def Registration.ofAddress (name url : String) : Registration :=
  { name, url := Text.trimEnd '/' url, key := none, owner := none, models := [] }

structure TempProvider where
  id : String
  url : String
  name : String
  key : Option String
  owner : Option Nat
  models : List String
  isHealthy : Bool
  /-- When the present streak of failed probes began. -/
  unhealthySince : Option Time
  registeredAt : Time
  probedAt : Option Time
deriving DecidableEq, Repr

namespace TempProvider

def shown (p : TempProvider) : String :=
  Text.record "TempProvider"
    [("id", Text.quoted p.id), ("url", Text.quoted p.url), ("name", Text.quoted p.name),
      ("auth_key", Text.optional (p.key.map fun _ => Text.quoted "<redacted>")),
      ("owner_process_id", Text.optional (p.owner.map Whole.text)),
      ("models", Text.bracketed (p.models.map Text.quoted)),
      ("is_healthy", if p.isHealthy then "true" else "false"),
      ("unhealthy_since", Text.optional (p.unhealthySince.map Whole.text))]

/-- Whether `a` is listed no later than `b`: by time of registration, then by id. -/
def listedBefore (a b : TempProvider) : Bool :=
  a.registeredAt < b.registeredAt || (a.registeredAt = b.registeredAt && a.id ≤ b.id)

end TempProvider

structure Directory where
  providers : Table String TempProvider
  catalog : Catalog Double
deriving DecidableEq

namespace Directory

def ofCatalog (catalog : Catalog Double) : Directory := ⟨Table.empty, catalog⟩

def get? (d : Directory) (id : String) : Option TempProvider := d.providers.get? id

def list (d : Directory) : List TempProvider :=
  d.providers.values.mergeSort TempProvider.listedBefore

def healthy (d : Directory) : List TempProvider := d.list.filter TempProvider.isHealthy

def size (d : Directory) : Nat := d.providers.size

/-- Puts models of a provider into the catalog; a model that belongs to another provider stays
there. -/
def addModels (catalog : Catalog Double) (provider : String) (models : List String) :
    Catalog Double :=
  models.foldl (fun c model => (c.register (.onPremises model provider)).1) catalog

def register (id : String) (r : Registration) (now : Time) (d : Directory) :
    Effect Directory TempProvider :=
  let p : TempProvider :=
    { id, name := r.name, url := r.url, key := r.key, owner := r.owner, models := r.models
      isHealthy := true
      unhealthySince := none
      registeredAt := now
      probedAt := none }
  ⟨⟨d.providers.insert id p, addModels d.catalog id r.models⟩, p, [.provider id .registered now]⟩

def deregister (id : String) (now : Time) (d : Directory) :
    Effect Directory (Option TempProvider) :=
  match d.get? id with
  | none => .answerOnly d none
  | some p =>
    ⟨⟨d.providers.erase id, d.catalog.removeProvider id⟩, some p, [.provider id .deregistered now]⟩

def deregisterOwner (owner : Nat) (now : Time) (d : Directory) :
    Effect Directory (List TempProvider) :=
  (d.list.filter fun p => p.owner = some owner).foldl
    (fun e p => e.andThen fun gone d => (d.deregister p.id now).map fun q => gone ++ q.toList)
    (.answerOnly d [])

def setModels (id : String) (models : List String) (d : Directory) : Directory × Bool :=
  if d.providers.contains id then
    (⟨d.providers.modify id fun p => { p with models },
      addModels (d.catalog.removeProvider id) id models⟩, true)
  else (d, false)

def update (d : Directory) (id : String) (f : TempProvider → TempProvider) : Directory :=
  { d with providers := d.providers.modify id f }

end Directory

end InferenceDispatch
