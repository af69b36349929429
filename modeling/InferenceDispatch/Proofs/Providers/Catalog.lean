import InferenceDispatch.Proofs.Providers.Removal

namespace InferenceDispatch

namespace Catalog

theorem get?_register {α : Type} (c : Catalog α) (d : Descriptor α) (model : String) :
    (c.register d).1.get? model =
      if model = d.model ∧ (c.get? model).all (fun e => e.provider = d.provider) then some d
      else c.get? model := by
  unfold register
  by_cases hm : model = d.model
  · subst hm
    split
    next free => simp [put, SortedMap.get?_insert, free]
    next taken => simp [taken]
  · split <;> simp [put, SortedMap.get?_insert, hm]

end Catalog

namespace Directory

variable {d d' : Directory} {gone models : List String} {id model : String}

section Models

theorem get?_addModels (c : Catalog Double) (id : String) (models : List String) (model : String) :
    (addModels c id models).get? model =
      if model ∈ models ∧ (c.get? model).all (fun e => e.provider = id) then
        some (.onPremises model id)
      else c.get? model := by
  induction models generalizing c with
  | nil => simp [addModels]
  | cons first rest ih =>
    have step : (addModels c id (first :: rest)).get? model =
        (addModels (c.register (.onPremises first id)).1 id rest).get? model := rfl
    rw [step, ih, Catalog.get?_register]
    by_cases hm : model = first
    · subst hm
      cases h : c.get? model with
      | none => simp [Descriptor.onPremises]
      | some e => by_cases he : e.provider = id <;> simp [Descriptor.onPremises, he]
    · simp [Descriptor.onPremises, hm]

theorem get?_addModels_of_new {c : Catalog Double}
    (new : ∀ m e, c.get? m = some e → e.provider ≠ id) (models : List String) (model : String) :
    (addModels c id models).get? model =
      (c.get? model).or (if model ∈ models then some (.onPremises model id) else none) := by
  rw [get?_addModels]
  cases h : c.get? model with
  | none => simp
  | some e => simp [new model e h]

end Models

def Offers (d : Directory) (id model : String) : Prop := ∃ p, d.get? id = some p ∧ model ∈ p.models

instance : Decidable (d.Offers id model) :=
  inferInstanceAs (Decidable (∃ p ∈ d.get? id, model ∈ p.models))

def models? (d : Directory) (id : String) : Option (List String) :=
  (d.get? id).map TempProvider.models

theorem offers_iff :
    d.Offers id model ↔ ∃ models, d.models? id = some models ∧ model ∈ models := by
  simp only [Offers, models?, Option.map_eq_some_iff]
  constructor
  · rintro ⟨p, hp, hm⟩
    exact ⟨p.models, ⟨p, hp, rfl⟩, hm⟩
  · rintro ⟨_, ⟨p, hp, rfl⟩, hm⟩
    exact ⟨p, hp, hm⟩

theorem Departed.offers_iff (h : Departed gone d d') :
    d'.Offers id model ↔ id ∉ gone ∧ d.Offers id model := by
  constructor
  · rintro ⟨p', hp', hm⟩
    obtain ⟨hid, p, hp, same⟩ := h.stayed hp'
    have models : p'.models = p.models := (Prod.mk.inj same).2
    exact ⟨hid, p, hp, models ▸ hm⟩
  · rintro ⟨hid, p, hp, hm⟩
    obtain ⟨p', hp', same⟩ := h.stays hid hp
    have models : p'.models = p.models := (Prod.mk.inj same).2
    exact ⟨p', hp', models ▸ hm⟩

/-- A provider came with its models. A model that has an entry keeps it. -/
structure Joined (id : String) (models : List String) (d d' : Directory) : Prop where
  new : d.get? id = none
  lists : ∀ x, d'.models? x = if x = id then some models else d.models? x
  catalog : ∀ model, d'.catalog.get? model =
    (d.catalog.get? model).or (if model ∈ models then some (.onPremises model id) else none)

theorem Joined.offers_iff (h : Joined id models d d') {x : String} :
    d'.Offers x model ↔ x = id ∧ model ∈ models ∨ d.Offers x model := by
  rw [Directory.offers_iff, Directory.offers_iff, h.lists]
  by_cases hx : x = id
  · subst hx
    simp [models?, h.new]
  · simp [hx]

/-- What a call does to the directory: providers leave it, one joins it under the new id, or one leaves
and joins again with another list. -/
inductive Change (new? : Option String) (d d' : Directory) : Prop
  | left (gone : List String) : Departed gone d d' → Change new? d d'
  | joined (id : String) (models : List String) : new? = some id → Joined id models d d' →
      Change new? d d'
  | relisted (id : String) (models : List String) (mid : Directory) : Departed [id] d mid →
      Joined id models mid d' → Change new? d d'

structure Unknown (id : String) (d : Directory) : Prop where
  provider : d.get? id = none
  entries : ∀ m e, d.catalog.get? m = some e → e.provider ≠ id

theorem joined_register (new : Unknown id d) (r : Registration) (now : Time) :
    Joined id r.models d (d.register id r now).state where
  new := new.provider
  lists := by
    intro x
    rw [models?, get?, register, Table.get?_insert]
    split <;> rfl
  catalog := get?_addModels_of_new new.entries r.models

theorem change_setModels (d : Directory) (id : String) (models : List String) (new? : Option String) :
    Change new? d (d.setModels id models).1 := by
  unfold setModels
  split
  next known =>
    obtain ⟨p, hp⟩ := Table.contains_iff.mp known
    refine .relisted id models _ (departed_without hp)
      ⟨?_, fun x => ?_, get?_addModels_of_new ?_ models⟩
    · exact (Table.get?_erase ..).trans (if_pos rfl)
    · simp only [models?, get?, Table.get?_modify, Table.get?_erase]
      split
      next hx =>
        subst hx
        rw [hp]
        rfl
      next => rfl
    · intro m e he
      obtain ⟨_, h⟩ := Option.filter_eq_some_iff.mp ((SortedMap.get?_filter ..).symm.trans he)
      simpa using h
  next => exact .left [] (.refl d)

/-- New providers have ids of their own: none is given twice, and none is that of a static provider. -/
structure FreshIds (static : Catalog Double) (given : List String) : Prop where
  nodup : given.Nodup
  apart : ∀ id ∈ given, ∀ e ∈ static.values, e.provider ≠ id

/-- Where the catalog comes from, `given` being the ids of all providers so far. -/
structure InStep (static : Catalog Double) (given : List String) (d : Directory) : Prop where
  kept : ∀ m e, static.get? m = some e → d.catalog.get? m = some e
  plain : ∀ m e, d.catalog.get? m = some e → static.get? m = none →
    e = .onPremises m e.provider ∧ d.Offers e.provider m
  registered : ∀ id p, d.get? id = some p → id ∈ given

section InStep

variable {static : Catalog Double} {given given' : List String}

instance : Decidable (FreshIds static given) :=
  decidable_of_iff (given.Nodup ∧ ∀ id ∈ given, ∀ e ∈ static.values, e.provider ≠ id)
    ⟨fun h => ⟨h.1, h.2⟩, fun h => ⟨h.nodup, h.apart⟩⟩

theorem FreshIds.static_provider (fresh : FreshIds static given) {e : Descriptor Double}
    (he : static.get? model = some e) (hid : id ∈ given) : e.provider ≠ id := by
  have listed : (model, e) ∈ static.entries := SortedMap.get?_eq_some_iff.mp he
  exact fresh.apart id hid e (List.mem_map_of_mem listed)

theorem FreshIds.sublist (fresh : FreshIds static given') (h : given.Sublist given') :
    FreshIds static given where
  nodup := fresh.nodup.sublist h
  apart := fun id hid => fresh.apart id (h.subset hid)

theorem inStep_ofCatalog (static : Catalog Double) : InStep static [] (.ofCatalog static) where
  kept := fun _ _ he => he
  plain := by
    intro m e he hm
    have he : static.get? m = some e := he
    rw [hm] at he
    cases he
  registered := fun _ _ hp => by cases hp

namespace InStep

theorem mono (h : InStep static given d) (sub : given ⊆ given') : InStep static given' d :=
  ⟨h.kept, h.plain, fun id p hp => sub (h.registered id p hp)⟩

theorem origin (h : InStep static given d) {e : Descriptor Double}
    (he : d.catalog.get? model = some e) : static.get? model = some e ∨
      e = .onPremises model e.provider ∧ d.Offers e.provider model := by
  cases hm : static.get? model with
  | none => exact Or.inr (h.plain model e he hm)
  | some e' => exact Or.inl ((h.kept model e' hm).symm.trans he)

theorem static_of_absent (h : InStep static given d) (absent : d.catalog.get? model = none) :
    static.get? model = none := by
  by_contra known
  obtain ⟨e, hm⟩ := Option.ne_none_iff_exists'.mp known
  have present := h.kept model e hm
  rw [absent] at present
  cases present

theorem entry_apart (h : InStep static given d) (fresh : FreshIds static given') (hid : id ∈ given')
    (gone : d.get? id = none) {e : Descriptor Double} (he : d.catalog.get? model = some e) :
    e.provider ≠ id := by
  rcases h.origin he with hm | ⟨_, p, hp, _⟩
  · exact fresh.static_provider hm hid
  · rintro rfl
    rw [gone] at hp
    cases hp

theorem unknown (h : InStep static given d) (new : id ∉ given)
    (fresh : FreshIds static (given ++ [id])) : Unknown id d := by
  have absent : d.get? id = none := by
    by_contra registered
    obtain ⟨p, hp⟩ := Option.ne_none_iff_exists'.mp registered
    exact new (h.registered id p hp)
  have hid : id ∈ given ++ [id] := List.mem_append_right _ List.mem_cons_self
  exact ⟨absent, fun _ _ he => h.entry_apart fresh hid absent he⟩

theorem departed (h : InStep static given d) (fresh : FreshIds static given)
    (left : Departed gone d d') : InStep static given d' where
  kept := by
    intro m e he
    have stays : e.provider ∉ gone := by
      intro hg
      obtain ⟨p, hp⟩ := left.known _ hg
      exact fresh.static_provider he (h.registered _ p hp) rfl
    rw [left.catalog, h.kept m e he]
    simp [Option.filter, stays]
  plain := by
    intro m e he hm
    obtain ⟨he, stays⟩ := Option.filter_eq_some_iff.mp ((left.catalog m).symm.trans he)
    obtain ⟨same, offered⟩ := h.plain m e he hm
    exact ⟨same, left.offers_iff.mpr ⟨of_decide_eq_true stays, offered⟩⟩
  registered := by
    intro id p' hp'
    obtain ⟨_, p, hp, _⟩ := left.stayed hp'
    exact h.registered id p hp

theorem joined (h : InStep static given d) (hid : id ∈ given) (came : Joined id models d d') :
    InStep static given d' where
  kept := by
    intro m e he
    rw [came.catalog, h.kept m e he]
    rfl
  plain := by
    intro m e he hm
    rw [came.catalog] at he
    rcases Option.or_eq_some_iff.mp he with he | ⟨_, he⟩
    · obtain ⟨same, offered⟩ := h.plain m e he hm
      exact ⟨same, came.offers_iff.mpr (Or.inr offered)⟩
    · split at he
      next listed =>
        cases he
        exact ⟨rfl, came.offers_iff.mpr (Or.inl ⟨rfl, listed⟩)⟩
      next => cases he
  registered := by
    intro x p' hp'
    by_cases hx : x = id
    · exact hx ▸ hid
    · have kept := came.lists x
      rw [if_neg hx, models?, hp', Option.map_some] at kept
      obtain ⟨p, hp, _⟩ := Option.map_eq_some_iff.mp kept.symm
      exact h.registered x p hp

theorem change (h : InStep static given d) {new? : Option String}
    (fresh : FreshIds static (given ++ new?.toList)) (change : Change new? d d') :
    InStep static (given ++ new?.toList) d' := by
  have before := h.mono (List.subset_append_left given new?.toList)
  cases change with
  | left gone left => exact before.departed fresh left
  | joined id models new came =>
    exact before.joined (by simp [new]) came
  | relisted id models mid left came =>
    obtain ⟨p, hp⟩ := left.known id List.mem_cons_self
    exact (before.departed fresh left).joined (before.registered id p hp) came

end InStep

end InStep

structure Missing (id model : String) (d : Directory) : Prop where
  offered : d.Offers id model
  absent : d.catalog.get? model = none

/-- A model goes out of the catalog although a provider goes on offering it: its entry was that of
another provider, which offers it no longer. -/
structure LosesOwner (id model : String) (d d' : Directory) : Prop where
  before : d.Offers id model
  owner : ∃ e, d.catalog.get? model = some e ∧ e.provider ≠ id ∧ d.Offers e.provider model ∧
    ¬d'.Offers e.provider model
  after : Missing id model d'

section Missing

variable {static : Catalog Double} {given : List String} {new? : Option String}

theorem Departed.losesOwner (left : Departed gone d d') (inStep : InStep static given d)
    (hm : static.get? model = none) (present : ¬Missing id model d) (after : Missing id model d') :
    LosesOwner id model d d' := by
  obtain ⟨stays, before⟩ := left.offers_iff.mp after.offered
  obtain ⟨e, he⟩ := Option.ne_none_iff_exists'.mp fun absent => present ⟨before, absent⟩
  have owner := (inStep.plain model e he hm).2
  have gone : e.provider ∈ gone := by simpa [left.catalog, he, Option.filter] using after.absent
  refine ⟨before, ⟨e, he, ?_, owner, fun still => ?_⟩, after⟩
  · rintro rfl
    exact stays gone
  · exact (left.offers_iff.mp still).1 gone

theorem Joined.missing {x : String} (came : Joined x models d d') (after : Missing id model d') :
    Missing id model d ∧ model ∉ models := by
  obtain ⟨offered, absent⟩ := after
  rw [came.catalog, Option.or_eq_none_iff] at absent
  have unlisted : model ∉ models := by simpa using absent.2
  -- the provider that came is not the one that misses the model, as it would have put it in
  rcases came.offers_iff.mp offered with ⟨_, listed⟩ | before
  · exact absurd listed unlisted
  · exact ⟨⟨before, absent.1⟩, unlisted⟩

theorem Change.losesOwner (change : Change new? d d') (inStep : InStep static given d)
    (hm : static.get? model = none) (present : ¬Missing id model d) (after : Missing id model d') :
    LosesOwner id model d d' := by
  cases change with
  | left gone left => exact left.losesOwner inStep hm present after
  | joined x models new came => exact absurd (came.missing after).1 present
  | relisted x models mid left came =>
    -- the provider of the entry took it out and did not put it back, so its new list lacks the model
    obtain ⟨between, unlisted⟩ := came.missing after
    obtain ⟨before, ⟨e, he, other, owner, lost⟩, _⟩ := left.losesOwner inStep hm present between
    refine ⟨before, ⟨e, he, other, owner, fun still => ?_⟩, after⟩
    rcases came.offers_iff.mp still with ⟨_, listed⟩ | still
    · exact unlisted listed
    · exact lost still

end Missing

end Directory

namespace Fleet

variable {α : Type} [OfScientific α] [Add α] [Sub α] [Mul α] [LE α] [LT α]
  [DecidableLE α] [DecidableLT α] {strategy : Strategy α} {settings : ManagerSettings}
  {health : HealthSettings} {static : Catalog Double} {start : Time} {s : Clocked Fleet} {c : Call}
  {e : Effect (Clocked Fleet) Answer} {turns : List (Turn (Clocked Fleet) Call Answer)}

theorem Step.change {now : Time} {f f' : Fleet} (step : Step health now f c f')
    (new : ∀ id, c.newId? = some id → Directory.Unknown id f.directory) :
    Directory.Change c.newId? f.directory f'.directory := by
  cases step with
  | managed => exact .left [] (.refl f.directory)
  | @registered _ id r hid => exact .joined id _ hid (Directory.joined_register (new id hid) r now)
  | relisted => exact Directory.change_setModels f.directory _ _ none
  | left _ left => exact .left _ left
  | rounded noted => exact .left _ noted.dropped.directory

def givenIds (turns : List (Turn (Clocked Fleet) Call Answer)) : List String :=
  turns.filterMap fun t => t.call.newId?

theorem givenIds_concat (turns : List (Turn (Clocked Fleet) Call Answer))
    (turn : Turn (Clocked Fleet) Call Answer) :
    givenIds (turns ++ [turn]) = givenIds turns ++ turn.call.newId?.toList := by
  cases h : turn.call.newId? <;> simp [givenIds, h]

theorem change_of_inStep (sound : s.state.manager.Sound) {given : List String}
    (inStep : Directory.InStep static given s.state.directory)
    (fresh : Directory.FreshIds static (given ++ c.newId?.toList))
    (hc : c.perform strategy settings health s = .ok e) :
    Directory.Change c.newId? s.state.directory e.state.state.directory := by
  refine (step_perform sound hc).change fun id hid => ?_
  rw [hid] at fresh
  have new : id ∉ given := fun old => (List.nodup_append.mp fresh.nodup).2.2 id old id (by simp) rfl
  exact inStep.unknown new fresh

theorem inStep_of_run
    (run : Run (Call.perform strategy settings health) ⟨start, idle static⟩ turns s)
    (fresh : Directory.FreshIds static (givenIds turns)) :
    Directory.InStep static (givenIds turns) s.state.directory := by
  induction run with
  | start => exact Directory.inStep_ofCatalog static
  | @next turns s c e run hc ih =>
    rw [givenIds_concat] at fresh ⊢
    have inStep := ih (fresh.sublist (List.sublist_append_left ..))
    have sound := (kept_of_run run (kept_idle static)).sound
    exact inStep.change fresh (change_of_inStep sound inStep fresh hc)

/-- Whatever providers have come and gone, and whatever lists they had, the static descriptors are in the
catalog as they were, and every other entry is the plain one of a provider that is registered now and
lists the model. None is left of a provider that has gone. -/
theorem catalog_of_listed
    (run : Run (Call.perform strategy settings health) ⟨start, idle static⟩ turns s)
    (fresh : Directory.FreshIds static (givenIds turns)) :
    let d := s.state.directory
    (∀ model e, static.get? model = some e → d.catalog.get? model = some e) ∧
      (∀ model e, d.catalog.get? model = some e → static.get? model = none →
        e = .onPremises model e.provider ∧ d.Offers e.provider model) ∧
      ∀ id ∈ givenIds turns, d.get? id = none →
        ∀ model e, d.catalog.get? model = some e → e.provider ≠ id := by
  intro d
  have inStep := inStep_of_run run fresh
  exact ⟨inStep.kept, inStep.plain, fun _ hid gone _ _ he => inStep.entry_apart fresh hid gone he⟩

/-- One of two providers leaves. Its models leave with it, and the static entry of a model that it
offered as well stays. -/
theorem static_entry_stays : ∃ turns s,
    let static : Catalog Double := .ofDescriptors [⟨"m", "cloud", .outsideEu, 0, 0, 0, 0, 4⟩]
    Run (Call.perform (.firstCome : Strategy Double) ⟨seconds 60, 1⟩ ⟨30, 5, 300⟩)
      ⟨0, idle static⟩ turns s ∧
    Directory.FreshIds static (givenIds turns) ∧ "p" ∈ givenIds turns ∧
      s.state.directory.catalog.keys = ["m", "o"] ∧
      s.state.directory.catalog.get? "m" = static.get? "m" ∧
      s.state.directory.catalog.get? "o" = some (.onPremises "o" "q") ∧
      ∀ model e, s.state.directory.catalog.get? model = some e → e.provider ≠ "p" := by
  let static : Catalog Double := .ofDescriptors [⟨"m", "cloud", .outsideEu, 0, 0, 0, 0, 4⟩]
  have played : ((play (Call.perform (.firstCome : Strategy Double) ⟨seconds 60, 1⟩ ⟨30, 5, 300⟩)
      [.register "p" ⟨"p", "http://p", none, none, ["m", "n"]⟩,
        .register "q" ⟨"q", "http://q", none, none, ["m", "o"]⟩, .deregister "p"]
      ⟨0, idle static⟩).toOption.map fun r =>
        decide (Directory.FreshIds static (givenIds r.1) ∧ "p" ∈ givenIds r.1 ∧
          r.2.state.directory.get? "p" = none ∧
          r.2.state.directory.catalog.keys = ["m", "o"] ∧
          ∃ e ∈ r.2.state.directory.catalog.get? "o", e.provider = "q")) = some true := by
    decide +kernel
  obtain ⟨turns, s, run, seen⟩ := Run.exists_of_play played
  obtain ⟨fresh, given, gone, keys, e, he, hq⟩ := of_decide_eq_true seen
  obtain ⟨kept, plain, left⟩ := catalog_of_listed run fresh
  have own : e = .onPremises "o" "q" := hq ▸ (plain "o" e he (by decide +kernel)).1
  refine ⟨turns, s, run, fresh, given, keys, ?_, own ▸ he, left "p" given gone⟩
  exact kept "m" _ rfl

/-- A model that a registered provider offers is in the catalog, under a static descriptor or for a
provider that offers it; or else the entry was another provider's, which has left or changed its list
meanwhile, and nothing has put the model in since. -/
theorem offered_or_lost
    (run : Run (Call.perform strategy settings health) ⟨start, idle static⟩ turns s)
    (fresh : Directory.FreshIds static (givenIds turns)) {id model : String}
    (offered : s.state.directory.Offers id model) :
    let d := s.state.directory
    (∃ e, d.catalog.get? model = some e ∧
      (static.get? model = some e ∨ d.Offers e.provider model)) ∨
    d.catalog.get? model = none ∧ ∃ earlier turn later, turns = earlier ++ turn :: later ∧
      Directory.LosesOwner id model turn.before.state.directory turn.after.state.directory ∧
      ∀ t ∈ later, Directory.Missing id model t.after.state.directory := by
  intro d
  have inStep := inStep_of_run run fresh
  cases he : d.catalog.get? model with
  | some e => exact Or.inl ⟨e, rfl, (inStep.origin he).imp_right And.right⟩
  | none =>
    have hm := inStep.static_of_absent he
    have first : ¬Directory.Missing id model (idle static).directory := by
      rintro ⟨⟨p, hp, _⟩, _⟩
      cases hp
    -- the model was not missing at the start, so it went missing in one of the turns
    obtain ⟨earlier, turn, later, rfl, before, after, since⟩ :=
      run.since (P := fun s => Directory.Missing id model s.state.directory) first ⟨offered, he⟩
    obtain ⟨run, hc, _⟩ := run.cut_at
    have sub : (givenIds (earlier ++ [turn])).Sublist (givenIds (earlier ++ turn :: later)) :=
      ((List.nil_sublist later).cons_cons turn |>.append_left earlier).filterMap _
    have fresh := fresh.sublist sub
    rw [givenIds_concat] at fresh
    have inStep := inStep_of_run run (fresh.sublist (List.sublist_append_left ..))
    have sound := (kept_of_run run (kept_idle static)).sound
    have lost := (change_of_inStep sound inStep fresh hc).losesOwner inStep hm before after
    exact Or.inr ⟨rfl, earlier, turn, later, rfl, lost, since⟩

/-- Two providers list the same model, and the one that has the entry leaves: the other one's model is
lost in the turn in which the first one leaves. -/
theorem lost_with_first_provider : ∃ turns s,
    Run (Call.perform (.firstCome : Strategy Double) ⟨seconds 60, 1⟩ ⟨30, 5, 300⟩)
      ⟨0, idle .empty⟩ turns s ∧
    Directory.FreshIds .empty (givenIds turns) ∧ s.state.directory.Offers "q" "m" ∧
    ∃ earlier turn later, turns = earlier ++ turn :: later ∧
      Directory.LosesOwner "q" "m" turn.before.state.directory turn.after.state.directory ∧
      ∀ t ∈ later, Directory.Missing "q" "m" t.after.state.directory := by
  have played : ((play (Call.perform (.firstCome : Strategy Double) ⟨seconds 60, 1⟩ ⟨30, 5, 300⟩)
      [.register "p" ⟨"p", "http://p", none, none, ["m"]⟩,
        .register "q" ⟨"q", "http://q", none, none, ["m"]⟩, .deregister "p",
        .register "r" ⟨"r", "http://r", none, none, ["n"]⟩]
      ⟨0, idle .empty⟩).toOption.map fun r =>
        decide (Directory.FreshIds .empty (givenIds r.1) ∧ r.2.state.directory.Offers "q" "m" ∧
          r.2.state.directory.catalog.get? "m" = none)) = some true := by
    decide +kernel
  obtain ⟨turns, s, run, seen⟩ := Run.exists_of_play played
  obtain ⟨fresh, offered, absent⟩ := of_decide_eq_true seen
  rcases offered_or_lost run fresh offered with ⟨e, he, _⟩ | ⟨_, lost⟩
  · rw [absent] at he
    cases he
  · exact ⟨turns, s, run, fresh, offered, lost⟩

/-- A provider offers a model, and the catalog has no entry for it. -/
theorem offered_but_absent : ∃ turns s,
    Run (Call.perform (.firstCome : Strategy Double) ⟨seconds 60, 1⟩ ⟨30, 5, 300⟩)
      ⟨0, idle .empty⟩ turns s ∧
    Directory.FreshIds .empty (givenIds turns) ∧ s.state.directory.Offers "q" "m" ∧
      s.state.directory.catalog.get? "m" = none := by
  have played : ((play (Call.perform (.firstCome : Strategy Double) ⟨seconds 60, 1⟩ ⟨30, 5, 300⟩)
      [.register "p" ⟨"p", "http://p", none, none, ["m"]⟩,
        .register "q" ⟨"q", "http://q", none, none, ["m"]⟩, .deregister "p"]
      ⟨0, idle .empty⟩).toOption.map fun r =>
        decide (Directory.FreshIds .empty (givenIds r.1) ∧ r.2.state.directory.Offers "q" "m" ∧
          r.2.state.directory.catalog.get? "m" = none)) = some true := by
    decide +kernel
  obtain ⟨turns, s, run, seen⟩ := Run.exists_of_play played
  exact ⟨turns, s, run, of_decide_eq_true seen⟩

end Fleet

end InferenceDispatch
