import InferenceDispatch.Proofs.Manager.Reports
import InferenceDispatch.Proofs.Providers.Removal

namespace InferenceDispatch

namespace TempProvider

def reached (p : TempProvider) (now : Time) : TempProvider :=
  { p with isHealthy := true, unhealthySince := none, probedAt := some now }

def missed (p : TempProvider) (now : Time) : TempProvider :=
  { p with isHealthy := false, unhealthySince := some (p.unhealthySince.getD now), probedAt := some now }

end TempProvider

theorem Effect.andThen_ite {σ τ α β : Type} {e : Effect σ α} (P : α → Prop) [DecidablePred P]
    {g g' : α → σ → Effect τ β} :
    (e.andThen fun a s => if P a then g a s else g' a s) =
      if P e.answer then e.andThen g else e.andThen g' := by
  by_cases h : P e.answer <;> simp [Effect.andThen, h]

namespace Fleet

/-- When a provider was probed, and whether it was reached. -/
structure Finding where
  time : Time
  reached : Bool
deriving DecidableEq

inductive Happening where
  | registered (p : TempProvider)
  | relisted (models : List String)
  | probed (finding : Finding)
  | left

/-- What a happening makes of a provider, which is registered or not, and what is reported of it. A
provider that goes on being missed is taken out as soon as that has lasted for longer than `limit`. -/
def Happening.befall (limit : Time) :
    Happening → Option TempProvider → Option TempProvider × List ProviderAction
  | registered p, _ => (some { p with isHealthy := true, unhealthySince := none }, [.registered])
  | relisted models, p? => (p?.map fun p => { p with models }, [])
  | probed ⟨now, true⟩, some p =>
    (some (p.reached now), if p.isHealthy then [] else [.recovered])
  | probed ⟨now, false⟩, some p =>
    let told := if p.isHealthy then [.unhealthy] else []
    if limit < elapsed (p.unhealthySince.getD now) now then (none, told ++ [.deregistered])
    else (some (p.missed now), told)
  | left, some _ => (none, [.deregistered])
  | probed _, none | left, none => (none, [])

/-- What becomes of a provider to which one thing happens after another, and what is reported of it. -/
def befallAll (limit : Time) (p? : Option TempProvider) (hs : List Happening) :
    Option TempProvider × List ProviderAction :=
  hs.foldl (fun seen h => ((h.befall limit seen.1).1, seen.2 ++ (h.befall limit seen.1).2)) (p?, [])

def actionsOf (id : String) (es : List Event) : List ProviderAction :=
  es.filterMap fun e => (e.provider?.filter fun report => report.1 = id).map Prod.snd

def Call.happenings (now : Time) (f : Fleet) (id : String) : Call → List Happening
  | manage _ => []
  | register x r => if x = id then [.registered (f.directory.register x r now).answer] else []
  | registerDiscovered x net r =>
    if x = id then [.registered (f.directory.register x (Discovery.complete net r) now).answer] else []
  | setModels x models => if x = id then [.relisted models] else []
  | deregister x => if x = id then [.left] else []
  | deregisterOwner owner =>
    ((f.directory.list.filter fun p => p.owner = some owner).filter fun p => p.id = id).map
      fun _ => .left
  | healthRound found => (found.filter fun o => o.1 = id).map fun o => .probed ⟨now, o.2.isReachable⟩

/-- No provider is probed twice in a round. -/
def Call.ProbesOnce : Call → Prop
  | healthRound found => (found.map Prod.fst).Nodup
  | manage _ | register .. | registerDiscovered .. | setModels .. | deregister _
  | deregisterOwner _ => True

instance : DecidablePred Call.ProbesOnce
  | .healthRound found => inferInstanceAs (Decidable (found.map Prod.fst).Nodup)
  | .manage _ | .register .. | .registerDiscovered .. | .setModels .. | .deregister _
  | .deregisterOwner _ => .isTrue trivial

def happenings (id : String) (turns : List (Turn (Clocked Fleet) Call Answer)) : List Happening :=
  turns.flatMap fun turn => turn.call.happenings turn.before.now turn.before.state id

def reported (turns : List (Turn (Clocked Fleet) Call Answer)) : List Event :=
  turns.flatMap Turn.events

variable {limit now : Time} {id : String}

theorem happenings_concat (turns : List (Turn (Clocked Fleet) Call Answer))
    (turn : Turn (Clocked Fleet) Call Answer) : happenings id (turns ++ [turn]) =
      happenings id turns ++ turn.call.happenings turn.before.now turn.before.state id := by
  simp [happenings]

theorem reported_concat (turns : List (Turn (Clocked Fleet) Call Answer))
    (turn : Turn (Clocked Fleet) Call Answer) :
    reported (turns ++ [turn]) = reported turns ++ turn.events := by
  simp [reported]

theorem probesOnce_listed {f : Fleet} (keyed : f.directory.Keyed)
    (probe : TempProvider → ProbeOutcome) :
    (Call.healthRound (f.directory.list.map fun p => (p.id, probe p))).ProbesOnce := by
  rw [Call.ProbesOnce, List.map_map]
  exact Directory.nodup_list_ids keyed

theorem happenings_of_mem {f : Fleet} {found : List (String × ProbeOutcome)}
    (once : (Call.healthRound found).ProbesOnce) {outcome : ProbeOutcome} (h : (id, outcome) ∈ found) :
    (Call.healthRound found).happenings now f id = [.probed ⟨now, outcome.isReachable⟩] := by
  rw [Call.happenings, filter_key once, (find?_key_eq_some_iff once).mpr ⟨h, rfl⟩]
  rfl

section Reports

@[simp] theorem actionsOf_nil : actionsOf id [] = [] := rfl

theorem actionsOf_append (es es' : List Event) :
    actionsOf id (es ++ es') = actionsOf id es ++ actionsOf id es' := List.filterMap_append

theorem actionsOf_provider (x : String) (action : ProviderAction) (now : Time) :
    actionsOf id [.provider x action now] = if x = id then [action] else [] := by
  by_cases hx : x = id <;> simp [actionsOf, Event.provider?, Option.filter, hx]

theorem actionsOf_of_tickets {es : List Event} (h : ∀ e ∈ es, ∃ t, e.ticket? = some t) :
    actionsOf id es = [] := by
  refine List.filterMap_eq_nil_iff.mpr fun e he => ?_
  obtain ⟨t, ht⟩ := h e he
  cases e with
  | provider => cases ht
  | enqueue | scheduled | complete => rfl

theorem actionsOf_withdraw (id : String) (m : Manager) (now : Time) (provider : String) :
    actionsOf id (m.withdraw now provider).events = [] := by
  have fold : ∀ (tasks : List Task) (e : Effect Manager (List Ticket)), actionsOf id e.events = [] →
      actionsOf id (tasks.foldl (fun e task => e.andThen fun failed m =>
        (m.orphan now task).map fun t => failed ++ t.toList) e).events = [] := by
    intro tasks
    induction tasks with
    | nil => exact fun e silent => silent
    | cons task tasks ih =>
      intro e silent
      refine ih _ ?_
      rw [Effect.events_andThen, actionsOf_append, silent, List.nil_append]
      change actionsOf id (e.state.orphan now task).events = []
      unfold Manager.orphan
      split <;> rfl
  exact fold _ _ rfl

end Reports

section Befall

theorem befall_probed_none (finding : Finding) :
    (Happening.probed finding).befall limit none = (none, []) := by
  obtain ⟨time, reached⟩ := finding
  cases reached <;> rfl

theorem befallAll_concat (p? : Option TempProvider) (hs : List Happening) (h : Happening) :
    befallAll limit p? (hs ++ [h]) = ((h.befall limit (befallAll limit p? hs).1).1,
      (befallAll limit p? hs).2 ++ (h.befall limit (befallAll limit p? hs).1).2) := by
  rw [befallAll, List.foldl_concat]
  rfl

theorem befallAll_append (p? : Option TempProvider) (hs hs' : List Happening) :
    befallAll limit p? (hs ++ hs') = ((befallAll limit (befallAll limit p? hs).1 hs').1,
      (befallAll limit p? hs).2 ++ (befallAll limit (befallAll limit p? hs).1 hs').2) := by
  induction hs' using List.reverseRecOn with
  | nil => simp [befallAll]
  | append_singleton hs' h ih =>
    rw [← List.append_assoc, befallAll_concat, befallAll_concat, ih]
    simp

theorem befallAll_single (p? : Option TempProvider) (h : Happening) :
    befallAll limit p? [h] = h.befall limit p? := by
  rw [← List.nil_append [h], befallAll_concat]
  rfl

theorem befallAll_ite (x : String) (p? : Option TempProvider) (h : Happening) :
    befallAll limit p? (if x = id then [h] else []) =
      if x = id then h.befall limit p? else (p?, []) := by
  split
  next => exact befallAll_single p? h
  next => rfl

/-- Where every step of a series is a happening for the provider that the step is about, and nothing for
the others, the series is the happenings of the steps that are about it. -/
theorem befallAll_foldl {σ α β : Type} (limit : Time) (look : σ → Option TempProvider)
    (key : β → String) (happening : β → Happening) {op : β → α → σ → Effect σ α}
    (step : ∀ x a s, (look (op x a s).state, actionsOf id (op x a s).events) =
      if key x = id then (happening x).befall limit (look s) else (look s, []))
    (xs : List β) (e : Effect σ α) :
    let e' := xs.foldl (fun e x => e.andThen (op x)) e
    let seen := befallAll limit (look e.state) ((xs.filter fun x => key x = id).map happening)
    (look e'.state, actionsOf id e'.events) = (seen.1, actionsOf id e.events ++ seen.2) := by
  induction xs generalizing e with
  | nil => simp [befallAll]
  | cons x xs ih =>
    have step := step x e.answer e.state
    simp only [List.foldl_cons] at ih ⊢
    rw [ih, Effect.state_andThen, Effect.events_andThen, actionsOf_append, List.append_assoc]
    by_cases hx : key x = id
    · rw [if_pos hx] at step
      rw [List.filter_cons_of_pos (by simpa using hx), List.map_cons, ← List.singleton_append,
        befallAll_append, befallAll_single, ← step]
    · rw [if_neg hx] at step
      obtain ⟨state, silent⟩ := Prod.mk.inj step
      rw [List.filter_cons_of_neg (by simpa using hx), state, silent, List.nil_append]

end Befall

section Calls

theorem befall_deregister (x : String) (now : Time) (d : Directory) :
    ((d.deregister x now).state.get? id, actionsOf id (d.deregister x now).events) =
      if x = id then Happening.left.befall limit (d.get? id) else (d.get? id, []) := by
  unfold Directory.deregister
  split
  next absent =>
    split
    next hx =>
      subst hx
      rw [Effect.answerOnly, absent]
      rfl
    next => rfl
  next p present =>
    have gone : (⟨d.providers.erase x, d.catalog.removeProvider x⟩ : Directory).get? id =
        if id = x then none else d.get? id := Table.get?_erase ..
    rw [gone, actionsOf_provider]
    by_cases hx : x = id
    · subst hx
      rw [if_pos rfl, if_pos rfl, if_pos rfl, present]
      rfl
    · rw [if_neg hx, if_neg hx, if_neg (Ne.symm hx)]

theorem get?_update (d : Directory) (x : String) (g : TempProvider → TempProvider) :
    (d.update x g).get? id = if id = x then (d.get? id).map g else d.get? id :=
  Table.get?_modify ..

theorem befallAll_register (f : Fleet) (x : String) (r : Registration) (now : Time) :
    let e := f.directory.register x r now
    (e.state.get? id, actionsOf id e.events) = befallAll limit (f.directory.get? id)
      (if x = id then [.registered e.answer] else []) := by
  have found : (f.directory.register x r now).state.get? id =
      if id = x then some (f.directory.register x r now).answer else f.directory.get? id :=
    Table.get?_insert ..
  have told : actionsOf id (f.directory.register x r now).events =
      if x = id then [.registered] else [] := actionsOf_provider ..
  simp only [found, told, befallAll_ite, eq_comm (a := id)]
  split <;> rfl

theorem befallAll_setModels (f : Fleet) (x : String) (models : List String) :
    ((f.directory.setModels x models).1.get? id, []) = befallAll limit (f.directory.get? id)
      (if x = id then [.relisted models] else []) := by
  rw [befallAll_ite]
  unfold Directory.setModels
  split
  next =>
    simp only [Directory.get?, Table.get?_modify, eq_comm (a := id)]
    split <;> rfl
  next unknown =>
    split
    next hx =>
      subst hx
      have absent : f.directory.get? x = none :=
        Option.eq_none_iff_forall_ne_some.mpr fun p hp => unknown (Table.contains_iff.mpr ⟨p, hp⟩)
      rw [absent]
      rfl
    next => rfl

theorem befall_remove (limit : Time) (id : String) (f : Fleet) (x : String) (now : Time) :
    ((f.remove x now).state.directory.get? id, actionsOf id (f.remove x now).events) =
      if x = id then Happening.left.befall limit (f.directory.get? id)
      else (f.directory.get? id, []) := by
  rw [← befall_deregister x now f.directory]
  unfold remove
  rw [Effect.state_andThen, Effect.events_andThen, actionsOf_append]
  split
  next => rw [Effect.answerOnly]; simp [inDirectory, actionsOf]
  next =>
    have silent := actionsOf_withdraw id
      (f.inDirectory (Directory.deregister x now)).state.manager now x
    simp only [inManager, Effect.map, silent, List.append_nil]
    rfl

section Probes

variable {f : Fleet} {x : String} {p : TempProvider}

theorem befall_noteReachable (hp : f.directory.get? x = some p) (now : Time) :
    let e := f.noteReachable x now p
    (e.state.directory.get? id, actionsOf id e.events) =
      if x = id then (Happening.probed ⟨now, true⟩).befall limit (f.directory.get? id)
      else (f.directory.get? id, []) := by
  simp only [noteReachable, get?_update]
  by_cases hx : x = id
  · subst hx
    rw [if_pos rfl, if_pos rfl, hp]
    cases hh : p.isHealthy <;>
      simp [Happening.befall, TempProvider.reached, hh, actionsOf_provider]
  · rw [if_neg hx, if_neg (Ne.symm hx)]
    cases hh : p.isHealthy <;> simp [hx, actionsOf_provider]

theorem befall_noteUnreachable (id : String) (hp : f.directory.get? x = some p) (now : Time) :
    let e := f.noteUnreachable x now p
    e.state.directory.get? id = (if x = id then some (p.missed now) else f.directory.get? id) ∧
      actionsOf id e.events = if x = id ∧ p.isHealthy then [.unhealthy] else [] := by
  simp only [noteUnreachable, get?_update, eq_comm (a := id)]
  constructor
  · split
    next hx =>
      subst hx
      rw [hp]
      rfl
    next => rfl
  · by_cases hh : p.isHealthy = true
    · simp only [hh, if_pos, and_true]
      exact actionsOf_provider ..
    · simp [hh]

theorem befall_missed (hp : f.directory.get? x = some p) (health : HealthSettings) (now : Time)
    (reason : String) (report : HealthReport) :
    let e := f.noteOutcome health now x (.unreachable reason) report
    (e.state.directory.get? id, actionsOf id e.events) =
      if x = id then (Happening.probed ⟨now, false⟩).befall health.removeAfter (f.directory.get? id)
      else (f.directory.get? id, []) := by
  obtain ⟨noted, told⟩ := befall_noteUnreachable id hp now
  have since : (f.noteUnreachable x now p).answer = p.unhealthySince.getD now := rfl
  simp only [noteOutcome, hp]
  generalize f.noteUnreachable x now p = e at noted told since
  rw [Effect.andThen_ite fun since => health.removeAfter < elapsed since now, since]
  by_cases late : health.removeAfter < elapsed (p.unhealthySince.getD now) now
  · have removed := befall_remove health.removeAfter id e.state x now
    rw [if_pos late, Effect.state_andThen, Effect.events_andThen, actionsOf_append, told, Effect.map]
    by_cases hx : x = id
    · subst hx
      rw [if_pos rfl, noted, if_pos rfl] at removed
      obtain ⟨gone, left⟩ := Prod.mk.inj removed
      simp [gone, left, Happening.befall, late, hp]
    · rw [if_neg hx, noted, if_neg hx] at removed
      obtain ⟨kept, silent⟩ := Prod.mk.inj removed
      simp [kept, silent, hx]
  · rw [if_neg late, Effect.state_andThen, Effect.events_andThen, actionsOf_append, told,
      Effect.answerOnly, noted]
    by_cases hx : x = id
    · subst hx
      simp [Happening.befall, late, hp]
    · simp [hx]

end Probes

theorem befall_noteOutcome (health : HealthSettings) (now : Time) (o : String × ProbeOutcome)
    (report : HealthReport) (f : Fleet) :
    let e := f.noteOutcome health now o.1 o.2 report
    (e.state.directory.get? id, actionsOf id e.events) =
      if o.1 = id then
        (Happening.probed ⟨now, o.2.isReachable⟩).befall health.removeAfter (f.directory.get? id)
      else (f.directory.get? id, []) := by
  obtain ⟨x, outcome⟩ := o
  cases hp : f.directory.get? x with
  | none =>
    have kept : (f.noteOutcome health now x outcome report).state = f ∧
        (f.noteOutcome health now x outcome report).events = [] := by
      cases outcome <;> simp [noteOutcome, hp, Effect.answerOnly]
    simp only [kept, actionsOf_nil]
    split
    next hx =>
      subst hx
      rw [hp, befall_probed_none]
    next => rfl
  | some p =>
    cases outcome with
    | reachable endpoint status =>
      simp only [noteOutcome, hp]
      exact befall_noteReachable hp now
    | unreachable reason => exact befall_missed hp health now reason report

variable {α : Type} [OfScientific α] [Add α] [Sub α] [Mul α] [LE α] [LT α]
  [DecidableLE α] [DecidableLT α] {strategy : Strategy α} {settings : ManagerSettings}
  {health : HealthSettings} {s : Clocked Fleet} {turns : List (Turn (Clocked Fleet) Call Answer)}

theorem befallAll_deregisterOwner (f : Fleet) (owner : Nat) (now : Time) :
    ((f.directory.deregisterOwner owner now).state.get? id,
        actionsOf id (f.directory.deregisterOwner owner now).events) =
      befallAll limit (f.directory.get? id) ((Call.deregisterOwner owner).happenings now f id) := by
  refine (befallAll_foldl limit (fun d : Directory => d.get? id) TempProvider.id
    (fun _ => .left) (fun p left d => ?_) _ (.answerOnly f.directory [])).trans ?_
  · exact befall_deregister p.id now d
  · exact congrArg (Prod.mk _) (List.nil_append _)

theorem befallAll_noteOutcomes (id : String) (f : Fleet) (health : HealthSettings) (now : Time)
    (found : List (String × ProbeOutcome)) :
    ((f.noteOutcomes health now found).state.directory.get? id,
        actionsOf id (f.noteOutcomes health now found).events) =
      befallAll health.removeAfter (f.directory.get? id)
        ((Call.healthRound found).happenings now f id) := by
  refine (befallAll_foldl health.removeAfter (fun f : Fleet => f.directory.get? id) Prod.fst
    (fun o => .probed ⟨now, o.2.isReachable⟩) (fun o report f => ?_) found
    (.answerOnly f { HealthReport.empty with probed := found.length })).trans ?_
  · exact befall_noteOutcome health now o report f
  · exact congrArg (Prod.mk _) (List.nil_append _)

/-- A call does to a provider, and reports of it, what the happenings do that it brings. -/
theorem befallAll_perform {c : Call} {e : Effect (Clocked Fleet) Answer}
    (sound : s.state.manager.Sound) (hc : c.perform strategy settings health s = .ok e) :
    (e.state.state.directory.get? id, actionsOf id e.events) =
      befallAll health.removeAfter (s.state.directory.get? id) (c.happenings s.now s.state id) := by
  cases c with
  | manage c =>
    obtain ⟨_, hrun, rfl⟩ := except_map_eq_ok_iff.mp hc
    obtain ⟨r, hr, rfl⟩ := except_map_eq_ok_iff.mp hrun
    have hc' : c.perform strategy settings ⟨s.now, s.state.manager⟩ =
        .ok ⟨⟨s.now + c.span, r.state⟩, r.answer, r.events⟩ :=
      except_map_eq_ok_iff.mpr ⟨r, hr, rfl⟩
    have silent : actionsOf id r.events = [] :=
      actionsOf_of_tickets fun _ hx => Manager.ticket_of_event sound hc' hx
    exact congrArg (Prod.mk _) silent
  | register x r =>
    cases hc
    exact befallAll_register ..
  | registerDiscovered x net r =>
    cases hc
    exact befallAll_register ..
  | setModels x models =>
    cases hc
    exact befallAll_setModels ..
  | deregister x =>
    cases hc
    exact (befall_deregister x s.now s.state.directory).trans (befallAll_ite ..).symm
  | deregisterOwner owner =>
    cases hc
    exact befallAll_deregisterOwner s.state owner s.now
  | healthRound found =>
    cases hc
    exact befallAll_noteOutcomes id s.state health s.now found

theorem befallAll_happenings {start : Time} {catalog : Catalog Double}
    (run : Run (Call.perform strategy settings health) ⟨start, idle catalog⟩ turns s) (id : String) :
    (s.state.directory.get? id, actionsOf id (reported turns)) =
      befallAll health.removeAfter none (happenings id turns) := by
  induction run with
  | start => rfl
  | @next turns s c e run hc ih =>
    have sound := (kept_of_run run (kept_idle catalog)).sound
    have before := congrArg Prod.fst ih
    have told := congrArg Prod.snd ih
    rw [reported_concat, happenings_concat, befallAll_append, ← before, ← told, actionsOf_append]
    exact congrArg (fun seen => (seen.1, actionsOf id (reported turns) ++ seen.2))
      (befallAll_perform sound hc)

end Calls

end Fleet

end InferenceDispatch
