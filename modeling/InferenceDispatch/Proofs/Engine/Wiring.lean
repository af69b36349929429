import InferenceDispatch.Engine
import InferenceDispatch.Proofs.Config.Acceptance
import InferenceDispatch.Proofs.Manager.Sound
import Mathlib.Data.List.TakeWhile

namespace InferenceDispatch

namespace Text

theorem trimEnd_spec (c : Char) (s : String) :
    (∃ n, s = trimEnd c s ++ String.ofList (List.replicate n c)) ∧
      (trimEnd c s).toList.getLast? ≠ some c := by
  constructor
  · have cut : ∀ x ∈ s.toList.reverse.takeWhile (· = c), x = c := fun x hx => by
      simpa using List.mem_takeWhile_imp hx
    refine ⟨(s.toList.reverse.takeWhile (· = c)).length, ?_⟩
    have parts := congrArg List.reverse (List.takeWhile_append_dropWhile (p := (· = c)) (l := s.toList.reverse))
    rw [List.reverse_append, List.reverse_reverse, List.eq_replicate_of_mem cut, List.reverse_replicate]
      at parts
    rw [trimEnd, ← String.ofList_append, parts, String.ofList_toList]
  · rw [trimEnd, String.toList_ofList, List.getLast?_reverse]
    intro head
    have := List.head?_dropWhile_not (· = c) s.toList.reverse
    rw [head] at this
    simp at this

end Text

namespace Catalog

theorem get?_ofDescriptors {α : Type} {ds : List (Descriptor α)}
    (nodup : (ds.map Descriptor.model).Nodup) (model : String) :
    (ofDescriptors ds).get? model = ds.find? fun d => d.model = model := by
  have write (c : Catalog α) (d : Descriptor α) (k : String) :
      (c.put d).get? k = if k = d.model then some d else c.get? k := SortedMap.get?_insert ..
  have written := lookup_foldl (fun (c : Catalog α) k => c.get? k) write nodup SortedMap.empty model
  rw [ofDescriptors, written, SortedMap.get?_empty, Option.or_none, Option.map_id']

theorem perm_values_ofDescriptors {α : Type} {ds : List (Descriptor α)}
    (nodup : (ds.map Descriptor.model).Nodup) : (ofDescriptors ds).values.Perm ds := by
  have entries : (ofDescriptors ds).entries.Perm (ds.map fun d => (d.model, d)) := by
    have keys : ((ds.map fun d => (d.model, d)).map Prod.fst).Nodup := by
      rw [List.map_map]
      exact nodup
    refine (List.perm_ext_iff_of_nodup (.of_map _ (ofDescriptors ds).nodup_keys) (.of_map _ keys)).mpr ?_
    rintro ⟨model, d⟩
    rw [← SortedMap.get?_eq_some_iff, get?_ofDescriptors nodup, find?_key_eq_some_iff nodup, List.mem_map]
    constructor
    · rintro ⟨hd, rfl⟩
      exact ⟨d, hd, rfl⟩
    · rintro ⟨_, hd, h⟩
      cases h
      exact ⟨hd, rfl⟩
  have values := entries.map Prod.snd
  rw [List.map_map] at values
  exact values.trans (.of_eq (List.map_id ds))

end Catalog

namespace SlotTable

theorem total_register (t : SlotTable) (model other : String) (n : Nat) :
    ((t.register model n).get? other).map Slots.total =
      if other = model then some n else (t.get? other).map Slots.total := by
  unfold register
  rw [Table.get?_modify, Table.get?_insertNew]
  split
  next h => simp [h]
  next => rfl

theorem get?_workTable {t : SlotTable} {model : String} (idle : t.busy model = 0) :
    t.workTable.get? model = (t.get? model).map Slots.total := by
  unfold busy at idle
  rw [workTable, Table.get?_mapValues]
  cases hs : t.get? model with
  | none => rfl
  | some s =>
    rw [hs] at idle
    have free : s.free = s.total := by
      rw [Slots.free, show s.busy = 0 from idle, Nat.sub_zero]
    rw [Option.map_some, free, Option.map_some]

end SlotTable

namespace Manager

theorem workTable_registered {ds : List (Descriptor Double)} (nodup : (ds.map Descriptor.model).Nodup)
    (model : String) :
    (ds.foldl (fun m d => m.registerModel d.model d.slots) empty).workTable.get? model =
      (ds.find? fun d => d.model = model).map Descriptor.slots := by
  have idle (m : Manager) : (ds.foldl (fun m d => m.registerModel d.model d.slots) m).slots.busy model =
      m.slots.busy model := by
    induction ds generalizing m with
    | nil => rfl
    | cons d ds ih =>
      rw [List.foldl_cons, ih (List.nodup_cons.mp nodup).2]
      exact SlotTable.busy_register ..
  have write (m : Manager) (d : Descriptor Double) (k : String) :
      ((m.registerModel d.model d.slots).slots.get? k).map Slots.total =
        if k = d.model then some d.slots else (m.slots.get? k).map Slots.total :=
    SlotTable.total_register ..
  have written := lookup_foldl (fun (m : Manager) k => (m.slots.get? k).map Slots.total) write nodup empty
    model
  rw [workTable, SlotTable.get?_workTable (idle empty), written]
  exact Option.or_none ..

end Manager

namespace Engine

section Providers

variable {settings : OllamaSettings} {f : Facades} {p : ProviderEntry} {entered rest : List ProviderEntry}

def hostOf (settings : OllamaSettings) (p : ProviderEntry) : Ollama :=
  .ofAddress p.id (p.url.getD "") settings true

theorem route_addProvider (settings : OllamaSettings) (f : Facades) (p : ProviderEntry) (provider : String) :
    (addProvider settings f p).routes.get? provider = if provider = p.id then
      some (match p.kind with | .azure => .azure | .ollama => .ollama f.hosts.length)
    else f.routes.get? provider := by
  unfold addProvider
  cases p.kind <;> exact Table.get?_insert ..

theorem hosts_addProvider (settings : OllamaSettings) (f : Facades) (p : ProviderEntry) :
    (addProvider settings f p).hosts = if p.kind = .ollama then f.hosts ++ [hostOf settings p] else f.hosts := by
  unfold addProvider
  cases p.kind <;> rfl

structure Entered (settings : OllamaSettings) (entered : List ProviderEntry) (f : Facades) : Prop where
  azure : ∀ p ∈ entered, p.kind = .azure → f.routes.get? p.id = some .azure
  ollama : ∀ p ∈ entered, p.kind = .ollama → ∃ n, f.routes.get? p.id = some (.ollama n) ∧
    f.hosts[n]? = some (hostOf settings p)
  others : ∀ id, id ∉ entered.map ProviderEntry.id → f.routes.get? id = none
  hosts : f.hosts = (entered.filter fun p => p.kind = .ollama).map (hostOf settings)

theorem Entered.nil (settings : OllamaSettings) (azure : Azure) : Entered settings [] (.ofAzure azure) :=
  ⟨by simp, by simp, fun _ _ => rfl, rfl⟩

theorem Entered.step (h : Entered settings entered f) (new : p.id ∉ entered.map ProviderEntry.id) :
    Entered settings (entered ++ [p]) (addProvider settings f p) := by
  have other : ∀ q ∈ entered, q.id ≠ p.id := fun q hq hid => new (hid ▸ List.mem_map_of_mem hq)
  have hosts := hosts_addProvider settings f p
  refine ⟨fun q hq hk => ?_, fun q hq hk => ?_, fun id hid => ?_, ?_⟩
  · rw [route_addProvider]
    rcases List.mem_append.mp hq with hq | hq
    · rw [if_neg (other q hq), h.azure q hq hk]
    · obtain rfl := List.mem_singleton.mp hq
      rw [if_pos rfl, hk]
  · rw [route_addProvider]
    rcases List.mem_append.mp hq with hq | hq
    · obtain ⟨n, route, host⟩ := h.ollama q hq hk
      refine ⟨n, by rw [if_neg (other q hq), route], ?_⟩
      rw [hosts]
      split
      next => exact List.getElem?_append_left (List.getElem?_eq_some_iff.mp host).1 ▸ host
      next => exact host
    · obtain rfl := List.mem_singleton.mp hq
      refine ⟨f.hosts.length, by rw [if_pos rfl, hk], ?_⟩
      rw [hosts, if_pos hk, List.getElem?_concat_length]
  · rw [List.map_append, List.mem_append, List.map_cons, List.map_nil, List.mem_singleton, not_or] at hid
    rw [route_addProvider, if_neg hid.2, h.others id hid.1]
  · rw [hosts, h.hosts, List.filter_append, List.map_append, List.filter_cons, List.filter_nil]
    by_cases hk : p.kind = .ollama <;> simp [hk]

theorem Entered.foldl (h : Entered settings entered f)
    (nodup : ((entered ++ rest).map ProviderEntry.id).Nodup) :
    Entered settings (entered ++ rest) (rest.foldl (addProvider settings) f) := by
  induction rest generalizing entered f with
  | nil => exact (List.append_nil entered).symm ▸ h
  | cons p rest ih =>
    rw [List.append_cons] at nodup ⊢
    have new : p.id ∉ entered.map ProviderEntry.id := by
      rw [List.map_append, List.map_append, List.nodup_append] at nodup
      have apart := (List.nodup_append.mp nodup.1).2.2
      exact fun hm => apart p.id hm p.id (by simp) rfl
    exact ih (h.step new) nodup

theorem foldlM_enterProvider (settings : OllamaSettings) {providers : List ProviderEntry}
    (addresses : ∀ p ∈ providers, p.kind = .ollama → p.url ≠ none) (f : Facades) :
    providers.foldlM (enterProvider settings) f = .ok (providers.foldl (addProvider settings) f) := by
  induction providers generalizing f with
  | nil => rfl
  | cons p providers ih =>
    obtain ⟨hp, addresses⟩ := List.forall_mem_cons.mp addresses
    have enters : enterProvider settings f p = .ok (addProvider settings f p) :=
      if_neg fun missing => hp missing.1 missing.2
    rw [List.foldlM_cons, enters]
    exact ih addresses (addProvider settings f p)

end Providers

def facadesOf (c : Config) : Facades :=
  c.providers.foldl (addProvider c.ollama) (.ofAzure (.ofThreshold c.capacityThreshold))

theorem ofConfig_of_fit {c : Config} (fit : c.Fit) : ofConfig c = .ok (around c (facadesOf c)) := by
  rw [ofConfig, Config.fault?_eq_none_iff.mpr fit]
  simp only [foldlM_enterProvider c.ollama fit.addresses]
  rfl

theorem entered_facadesOf {c : Config} (fit : c.Fit) : Entered c.ollama c.providers (facadesOf c) :=
  Entered.foldl (Entered.nil c.ollama (.ofThreshold c.capacityThreshold)) fit.providers

theorem Entered.answering_isSome {settings : OllamaSettings} {f : Facades} {entered : List ProviderEntry}
    (h : Entered settings entered f) (id : String) :
    (f.answering? id).isSome ↔ id ∈ entered.map ProviderEntry.id := by
  unfold Facades.answering?
  constructor
  · intro answers
    by_contra unknown
    rw [h.others id unknown] at answers
    cases answers
  · intro known
    obtain ⟨p, hp, rfl⟩ := List.mem_map.mp known
    cases hk : p.kind with
    | azure =>
      rw [h.azure p hp hk]
      rfl
    | ollama =>
      obtain ⟨n, route, host⟩ := h.ollama p hp hk
      rw [route, Option.bind_some]
      simp only [host, Option.map_some, Option.isSome_some]

/-- Every part of a configuration is in the engine, and the engine has no models and no providers beyond. -/
structure Wired (c : Config) (e : Engine) : Prop where
  catalog : e.catalog.values.Perm c.models
  found : ∀ d ∈ c.models, e.catalog.get? d.model = some d
  slots : ∀ d ∈ c.models, e.manager.workTable.get? d.model = some d.slots
  noSlots : ∀ model, model ∉ c.models.map Descriptor.model → e.manager.workTable.get? model = none
  answers : ∀ id, (e.facades.answering? id).isSome ↔ id ∈ c.providers.map ProviderEntry.id
  azure : ∀ p ∈ c.providers, p.kind = .azure → e.facades.routes.get? p.id = some .azure
  /-- Each Ollama provider has a host of its own, polled at the configured address less the slashes at its
  end. -/
  ollama : ∀ p ∈ c.providers, p.kind = .ollama → ∃ url n o, p.url = some url ∧
    e.facades.routes.get? p.id = some (.ollama n) ∧ e.facades.hosts[n]? = some o ∧
    o.provider = p.id ∧ o.settings = c.ollama ∧ o.listingUrl = o.address ++ "/api/ps" ∧
    (∃ slashes, url = o.address ++ String.ofList (List.replicate slashes '/')) ∧
    o.address.toList.getLast? ≠ some '/'
  hosts : e.facades.hosts.map Ollama.provider =
    (c.providers.filter fun p => p.kind = .ollama).map ProviderEntry.id

theorem wired_facadesOf {c : Config} (fit : c.Fit) : Wired c (around c (facadesOf c)) := by
  have entered := entered_facadesOf fit
  have workTable : ∀ model, (around c (facadesOf c)).manager.workTable.get? model =
      (c.models.find? fun d => d.model = model).map Descriptor.slots :=
    Manager.workTable_registered fit.models
  have found : ∀ d ∈ c.models, (c.models.find? fun x => x.model = d.model) = some d := fun d hd =>
    (find?_key_eq_some_iff fit.models).mpr ⟨hd, rfl⟩
  refine
    { catalog := Catalog.perm_values_ofDescriptors fit.models
      found := fun d hd => (Catalog.get?_ofDescriptors fit.models d.model).trans (found d hd)
      slots := fun d hd => by rw [workTable, found d hd, Option.map_some]
      noSlots := fun model unknown => by rw [workTable, find?_key_eq_none unknown, Option.map_none]
      answers := entered.answering_isSome
      azure := entered.azure
      ollama := fun p hp hk => ?_
      hosts := ?_ }
  · obtain ⟨n, route, host⟩ := entered.ollama p hp hk
    obtain ⟨url, hurl⟩ := Option.ne_none_iff_exists'.mp (fit.addresses p hp hk)
    have address : (hostOf c.ollama p).address = Text.trimEnd '/' url := by
      rw [hostOf, hurl]
      rfl
    obtain ⟨slashes, last⟩ := Text.trimEnd_spec '/' url
    exact ⟨url, n, _, hurl, route, host, rfl, rfl, rfl, address ▸ slashes, address ▸ last⟩
  · exact (congrArg (List.map Ollama.provider) entered.hosts).trans (List.map_map ..)

/-- An accepted configuration builds an engine, and all of it is wired there. -/
theorem accepted_wired {c : Config} (accepted : c.fault? = none) :
    ∃ e, ofConfig c = .ok e ∧ Wired c e := by
  have fit := Config.fault?_eq_none_iff.mp accepted
  exact ⟨_, ofConfig_of_fit fit, wired_facadesOf fit⟩

/-- Two Ollama providers, one Azure provider and two models of theirs. -/
theorem three_providers_wired :
    let here : Descriptor Double := ⟨"llama3", "local", .onPremises, 0, 0, 0, 0, 2⟩
    let there : Descriptor Double := ⟨"gpt-4o", "cloud", .outsideEu, 0, 0, 0, 0, 8⟩
    let c : Config := { Config.standard with
      providers := [⟨"local", .ollama, some "http://127.0.0.1:11434//", .empty⟩,
        ⟨"cloud", .azure, none, .ofList [("gpt-4o", "gpt4o")]⟩,
        ⟨"spare", .ollama, some "http://spare", .empty⟩]
      models := [here, there] }
    c.fault? = none ∧ ∃ e, ofConfig c = .ok e ∧ e.catalog.get? "gpt-4o" = some there ∧
      e.manager.workTable.get? "llama3" = some 2 ∧ e.facades.routes.get? "cloud" = some .azure ∧
      e.facades.hosts.map Ollama.provider = ["local", "spare"] := by
  intro here there c
  have accepted : c.fault? = none := by decide +kernel
  obtain ⟨e, built, wired⟩ := accepted_wired accepted
  exact ⟨accepted, e, built, wired.found there (by simp [c]), wired.slots here (by simp [c]),
    wired.azure _ (List.mem_cons_of_mem _ List.mem_cons_self) rfl, wired.hosts⟩

end Engine

end InferenceDispatch
