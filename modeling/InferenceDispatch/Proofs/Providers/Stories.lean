import InferenceDispatch.Proofs.Manager.InFlight
import InferenceDispatch.Proofs.Providers.Catalog
import InferenceDispatch.Proofs.Providers.Streaks
import Mathlib.Algebra.Ring.Nat

namespace InferenceDispatch

namespace Fleet

def standing (f : Fleet) (id : String) : Option Bool :=
  (f.directory.get? id).map TempProvider.isHealthy

def changeOf : Option Bool → Option Bool → List ProviderAction
  | none, some _ => [.registered]
  | some _, none => [.deregistered]
  | some true, some false => [.unhealthy]
  | some false, some true => [.recovered]
  | none, none | some true, some true | some false, some false => []

/-- The reports of a provider that turns `n` times, first from healthy to unhealthy. -/
def flips (n : Nat) : List ProviderAction :=
  (List.range n).map fun i => if i % 2 = 0 then .unhealthy else .recovered

/-- The reports on a provider of some standing. -/
inductive Story : Option Bool → List ProviderAction → Prop
  | untold : Story none []
  | present (n : Nat) : Story (some (n % 2 = 0)) (.registered :: flips n)
  | gone (n : Nat) : Story none (.registered :: (flips n ++ [.deregistered]))

inductive Brings (id : String) : Call → List Happening → Prop
  | nothing {c} : Brings id c []
  | registered {c : Call} (p : TempProvider) : c.newId? = some id → Brings id c [.registered p]
  | relisted {c} (models : List String) : Brings id c [.relisted models]
  | left {c} : Brings id c [.left]
  | probed {found} (finding : Finding) : Brings id (.healthRound found) [.probed finding]

/-- What a call can make of the standing of a provider. -/
inductive Chapter (id : String) : Call → Option Bool → Option Bool → Prop
  | same {c} (b : Option Bool) : Chapter id c b b
  | enters {c : Call} : c.newId? = some id → Chapter id c none (some true)
  | flips {found} (b : Bool) : Chapter id (.healthRound found) (some b) (some !b)
  | leaves {c} (b : Bool) : Chapter id c (some b) none

def idsOf (a : ProviderAction) (es : List Event) : List String :=
  es.filterMap fun e => (e.provider?.filter fun report => report.2 = a).map Prod.fst

def fallen (turn : Turn (Clocked Fleet) Call Answer) : List String :=
  turn.before.state.directory.providers.keys.filter fun id =>
    turn.before.state.standing id = some true ∧ turn.after.state.standing id = some false

variable {limit now : Time} {id : String} {c : Call} {b b' : Option Bool} {as : List ProviderAction}

section Story

theorem flips_succ (n : Nat) :
    flips (n + 1) = flips n ++ [if n % 2 = 0 then .unhealthy else .recovered] := by
  simp [flips, List.range_succ]

theorem changeOf_self (b : Option Bool) : changeOf b b = [] := by
  rcases b with _ | _ | _ <;> rfl

theorem Story.next (story : Story b as) (chapter : Chapter id c b b')
    (new : c.newId? = some id → as = []) : Story b' (as ++ changeOf b b') := by
  cases chapter with
  | same =>
    rw [changeOf_self, List.append_nil]
    exact story
  | enters hid =>
    rw [new hid]
    exact .present 0
  | leaves =>
    cases story with
    | present n => exact .gone n
  | flips =>
    cases story with
    | present n =>
      have told : ProviderAction.registered :: flips n ++
          changeOf (some (n % 2 = 0)) (some !(n % 2 = 0)) = .registered :: flips (n + 1) := by
        rw [flips_succ]
        by_cases even : n % 2 = 0 <;> simp [even, changeOf]
      rw [told]
      have turned : (!decide (n % 2 = 0)) = decide ((n + 1) % 2 = 0) := by
        by_cases even : n % 2 = 0 <;> simp [even] <;> omega
      rw [turned]
      exact .present (n + 1)

theorem Chapter.round {b : Bool} (chapter : Chapter id c (some b) (some !b)) :
    ∃ found, c = .healthRound found := by
  generalize turned : some (!b) = b' at chapter
  cases chapter with
  | same => cases b <;> cases turned
  | @flips found => exact ⟨found, rfl⟩
  | leaves => cases turned

theorem Story.count_deregistered (story : Story b as) :
    as.count .deregistered = if as ≠ [] ∧ b = none then 1 else 0 := by
  have still : ∀ n, (flips n).count .deregistered = 0 := by
    intro n
    refine List.count_eq_zero.mpr fun h => ?_
    obtain ⟨i, _, hi⟩ := List.mem_map.mp h
    split at hi <;> cases hi
  cases story <;> simp [still]

theorem count_unhealthy (b b' : Option Bool) :
    (changeOf b b').count .unhealthy = if b = some true ∧ b' = some false then 1 else 0 := by
  rcases b with _ | _ | _ <;> rcases b' with _ | _ | _ <;> rfl

end Story

section Counters

theorem count_idsOf (id : String) (a : ProviderAction) (es : List Event) :
    (idsOf a es).count id = (actionsOf id es).count a := by
  induction es with
  | nil => rfl
  | cons e es ih =>
    cases e with
    | provider x b time =>
      by_cases hx : x = id <;> by_cases hb : b = a <;>
        simpa [idsOf, actionsOf, Event.provider?, Option.filter, hx, hb] using ih
    | enqueue | scheduled | complete => simpa [idsOf, actionsOf, Event.provider?] using ih

theorem length_idsOf {a : ProviderAction} {es : List Event} {ids : List String} (nodup : ids.Nodup)
    (told : ∀ id, (actionsOf id es).count a = if id ∈ ids then 1 else 0) :
    (idsOf a es).length = ids.length := by
  have perm : (idsOf a es).Perm ids := by
    refine List.perm_iff_count.mpr fun id => ?_
    rw [count_idsOf, told, nodup.count]
  exact perm.length_eq

theorem counters_observeAll (m : Metrics) (es : List Event) :
    (m.observeAll es).providerFailures = m.providerFailures + (idsOf .unhealthy es).length ∧
      (m.observeAll es).providersRemoved =
        m.providersRemoved + (idsOf .deregistered es).length := by
  induction es generalizing m with
  | nil => exact ⟨rfl, rfl⟩
  | cons e es ih =>
    obtain ⟨failures, removed⟩ := ih (m.observe e)
    change (Metrics.observeAll (m.observe e) es).providerFailures = _ ∧
      (Metrics.observeAll (m.observe e) es).providersRemoved = _
    rw [failures, removed]
    cases e with
    | enqueue | scheduled => exact ⟨rfl, rfl⟩
    | complete t model status => cases status <;> exact ⟨rfl, rfl⟩
    | provider x action time =>
      cases action <;> simp [idsOf, Event.provider?, Option.filter, Metrics.observe] <;> omega

end Counters

section Turns

theorem brings_happenings {f : Fleet} (keyed : f.directory.Keyed) (once : c.ProbesOnce) (now : Time)
    (id : String) : Brings id c (c.happenings now f id) := by
  cases c with
  | manage => exact .nothing
  | register x r | registerDiscovered x net r =>
    simp only [Call.happenings]
    split
    next hx => exact .registered _ (congrArg some hx)
    next => exact .nothing
  | setModels x models =>
    simp only [Call.happenings]
    split
    next => exact .relisted models
    next => exact .nothing
  | deregister x =>
    simp only [Call.happenings]
    split
    next => exact .left
    next => exact .nothing
  | deregisterOwner owner =>
    have ids : ((f.directory.list.filter fun p => p.owner = some owner).map TempProvider.id).Nodup :=
      (Directory.nodup_list_ids keyed).sublist (List.filter_sublist.map TempProvider.id)
    simp only [Call.happenings, filter_key ids]
    cases List.find? _ _ with
    | none => exact .nothing
    | some p => exact .left
  | healthRound found =>
    simp only [Call.happenings, filter_key once]
    cases List.find? _ found with
    | none => exact .nothing
    | some o => exact .probed _

/-- A probe turns a provider, leaves it as it is, or takes it out. The one that turns it unhealthy does not
take it out as well, since the streak begins with it. -/
theorem probed_chapter {p : TempProvider} (watched : p.isHealthy = true ↔ p.unhealthySince = none)
    (found : List (String × ProbeOutcome)) (finding : Finding) :
    let seen := (Happening.probed finding).befall limit (some p)
    Chapter id (.healthRound found) (some p.isHealthy) (seen.1.map TempProvider.isHealthy) ∧
      seen.2 = changeOf (some p.isHealthy) (seen.1.map TempProvider.isHealthy) := by
  obtain ⟨time, reached⟩ := finding
  cases reached with
  | true =>
    simp only [Happening.befall]
    cases p.isHealthy with
    | true => exact ⟨.same _, rfl⟩
    | false => exact ⟨.flips false, rfl⟩
  | false =>
    simp only [Happening.befall]
    cases hh : p.isHealthy with
    | true =>
      rw [watched.mp hh, if_neg (by simp [elapsed])]
      exact ⟨.flips true, rfl⟩
    | false =>
      split
      next => exact ⟨.leaves false, rfl⟩
      next => exact ⟨.same _, rfl⟩

theorem Brings.chapter {hs : List Happening} (brings : Brings id c hs) (limit : Time)
    {p? : Option TempProvider}
    (watched : ∀ p, p? = some p → (p.isHealthy = true ↔ p.unhealthySince = none))
    (new : c.newId? = some id → p? = none) :
    let seen := befallAll limit p? hs
    Chapter id c (p?.map TempProvider.isHealthy) (seen.1.map TempProvider.isHealthy) ∧
      seen.2 = changeOf (p?.map TempProvider.isHealthy) (seen.1.map TempProvider.isHealthy) := by
  cases brings with
  | nothing => exact ⟨.same _, (changeOf_self _).symm⟩
  | registered p hid =>
    rw [new hid, befallAll_single]
    exact ⟨.enters hid, rfl⟩
  | relisted models =>
    rw [befallAll_single]
    cases p? with
    | none => exact ⟨.same none, rfl⟩
    | some p => exact ⟨.same (some p.isHealthy), (changeOf_self (some p.isHealthy)).symm⟩
  | left =>
    rw [befallAll_single]
    cases p? with
    | none => exact ⟨.same none, rfl⟩
    | some p => exact ⟨.leaves p.isHealthy, rfl⟩
  | @probed found finding =>
    rw [befallAll_single]
    cases p? with
    | none =>
      rw [befall_probed_none]
      exact ⟨.same none, rfl⟩
    | some p => exact probed_chapter (watched p rfl) found finding

end Turns

section Runs

variable {α : Type} [OfScientific α] [Add α] [Sub α] [Mul α] [LE α] [LT α]
  [DecidableLE α] [DecidableLT α] {strategy : Strategy α} {settings : ManagerSettings}
  {health : HealthSettings} {start : Time} {catalog : Catalog Double} {s : Clocked Fleet}
  {turns : List (Turn (Clocked Fleet) Call Answer)}

theorem newId_of_registered {f : Fleet} {p : TempProvider}
    (h : .registered p ∈ c.happenings now f id) : c.newId? = some id := by
  cases c with
  | register x r | registerDiscovered x net r =>
    simp only [Call.happenings] at h
    split at h
    next hx => exact congrArg some hx
    next => cases h
  | _ => simp [Call.happenings] at h

theorem registered_of_newId {e : Effect (Clocked Fleet) Answer} (hid : c.newId? = some id)
    (hc : c.perform strategy settings health s = .ok e) : .registered ∈ actionsOf id e.events := by
  cases c with
  | register x r | registerDiscovered x net r =>
    cases hc
    cases hid
    change _ ∈ actionsOf id [.provider id .registered s.now]
    simp [actionsOf_provider]
  | _ => cases hid

theorem befallAll_none {hs : List Happening} (h : ∀ p, .registered p ∉ hs) :
    befallAll limit none hs = (none, []) := by
  induction hs using List.reverseRecOn with
  | nil => rfl
  | append_singleton hs last ih =>
    rw [befallAll_concat, ih fun p hp => h p (List.mem_append_left _ hp)]
    cases last with
    | registered p => exact absurd (List.mem_append_right _ (List.mem_singleton_self _)) (h p)
    | relisted | left => rfl
    | probed finding => simp [befall_probed_none]

theorem unknown_of_run
    (run : Run (Call.perform strategy settings health) ⟨start, idle catalog⟩ turns s) (hid : id ∉ givenIds turns) :
    s.state.directory.get? id = none ∧ actionsOf id (reported turns) = [] := by
  have unregistered : ∀ p, .registered p ∉ happenings id turns := by
    intro p hp
    obtain ⟨turn, hturn, hp⟩ := List.mem_flatMap.mp hp
    exact hid (List.mem_filterMap.mpr ⟨turn, hturn, newId_of_registered hp⟩)
  have befallen := befallAll_happenings run id
  rw [befallAll_none unregistered] at befallen
  exact Prod.mk.inj befallen

theorem chapter_perform
    (run : Run (Call.perform strategy settings health) ⟨start, idle catalog⟩ turns s)
    (fresh : c.newId? = some id → id ∉ givenIds turns) (once : c.ProbesOnce)
    {e : Effect (Clocked Fleet) Answer} (hc : c.perform strategy settings health s = .ok e) :
    Chapter id c (s.state.standing id) (e.state.state.standing id) ∧
      actionsOf id e.events = changeOf (s.state.standing id) (e.state.state.standing id) := by
  have kept := kept_of_run run (kept_idle catalog)
  have told := (brings_happenings kept.keyed once s.now id).chapter health.removeAfter
    (fun p hp => (watched_of_run run hp).healthy_iff_since) fun hid => (unknown_of_run run (fresh hid)).1
  rw [← befallAll_perform kept.sound hc] at told
  exact told

theorem actionsOf_reported (turns : List (Turn (Clocked Fleet) Call Answer)) :
    actionsOf id (reported turns) = turns.flatMap fun turn => actionsOf id turn.events :=
  List.filterMap_flatMap

theorem idsOf_reported (a : ProviderAction) (turns : List (Turn (Clocked Fleet) Call Answer)) :
    idsOf a (reported turns) = turns.flatMap fun turn => idsOf a turn.events :=
  List.filterMap_flatMap

theorem story_of_run
    (run : Run (Call.perform strategy settings health) ⟨start, idle catalog⟩ turns s)
    (fresh : (givenIds turns).Nodup) (once : ∀ turn ∈ turns, turn.call.ProbesOnce) (id : String) :
    Story (s.state.standing id) (actionsOf id (reported turns)) := by
  induction run with
  | start => exact .untold
  | @next turns s c e run hc ih =>
    rw [givenIds_concat] at fresh
    have new : c.newId? = some id → id ∉ givenIds turns := by
      intro hid given
      exact List.disjoint_of_nodup_append fresh given (by simp [hid])
    obtain ⟨chapter, told⟩ := chapter_perform run new (once ⟨s, c, e⟩ (by simp)) hc
    have before := ih (fresh.sublist (List.sublist_append_left ..))
      fun turn hturn => once turn (List.mem_append_left _ hturn)
    rw [reported_concat, actionsOf_append]
    have story := before.next chapter fun hid => (unknown_of_run run (new hid)).2
    rw [← told] at story
    exact story

theorem told_iff_given
    (run : Run (Call.perform strategy settings health) ⟨start, idle catalog⟩ turns s) :
    actionsOf id (reported turns) ≠ [] ↔ id ∈ givenIds turns := by
  constructor
  · intro told
    by_contra hid
    exact told (unknown_of_run run hid).2
  · intro hid
    obtain ⟨turn, hturn, hid⟩ := List.mem_filterMap.mp hid
    obtain ⟨_, hc⟩ := run.keeps_turn (I := fun _ => True) (fun _ _ _ _ _ => trivial) trivial hturn
    have told : .registered ∈ actionsOf id turn.events := registered_of_newId hid hc
    rw [actionsOf_reported]
    exact List.ne_nil_of_mem (List.mem_flatMap.mpr ⟨turn, hturn, told⟩)

theorem chapter_of_mem
    (run : Run (Call.perform strategy settings health) ⟨start, idle catalog⟩ turns s)
    (fresh : (givenIds turns).Nodup) (once : ∀ turn ∈ turns, turn.call.ProbesOnce)
    {turn : Turn (Clocked Fleet) Call Answer} (hturn : turn ∈ turns) (id : String) :
    Chapter id turn.call (turn.before.state.standing id) (turn.after.state.standing id) ∧
      actionsOf id turn.events =
        changeOf (turn.before.state.standing id) (turn.after.state.standing id) := by
  obtain ⟨earlier, later, rfl⟩ := List.append_of_mem hturn
  obtain ⟨first, hc, _⟩ := run.cut_at
  refine chapter_perform first (fun hid given => ?_) (once turn hturn) hc
  -- the id would be given a second time
  rw [givenIds, List.filterMap_append] at fresh
  exact List.disjoint_of_nodup_append fresh given (List.mem_filterMap.mpr ⟨turn, by simp, hid⟩)

theorem length_fallen {turn : Turn (Clocked Fleet) Call Answer}
    (told : ∀ id, actionsOf id turn.events =
      changeOf (turn.before.state.standing id) (turn.after.state.standing id)) :
    (idsOf .unhealthy turn.events).length = (fallen turn).length := by
  refine length_idsOf (turn.before.state.directory.providers.nodup.filter _) fun id => ?_
  have known : turn.before.state.standing id = some true →
      id ∈ turn.before.state.directory.providers.keys := by
    intro healthy
    by_contra hid
    rw [standing, Directory.get?, Table.get?_eq_none_iff.mpr hid] at healthy
    cases healthy
  rw [told, count_unhealthy]
  refine if_congr ?_ rfl rfl
  rw [fallen, List.mem_filter, decide_eq_true_eq]
  exact ⟨fun turned => ⟨known turned.1, turned⟩, fun turned => turned.2⟩

/-- Where every provider has an id of its own and no round probes one twice, the reports on a provider tell
its story: nothing before it is registered, then each change in the turn in which it happens, and nothing
after it has left. The counters count the times a provider fell ill, and the providers that have left. -/
theorem reports_tell_stories
    (run : Run (Call.perform strategy settings health) ⟨start, idle catalog⟩ turns s)
    (fresh : (givenIds turns).Nodup) (once : ∀ turn ∈ turns, turn.call.ProbesOnce) :
    (∀ id, Story (s.state.standing id) (actionsOf id (reported turns)) ∧
        (actionsOf id (reported turns) ≠ [] ↔ id ∈ givenIds turns) ∧
        (.deregistered ∈ actionsOf id (reported turns) ↔
          id ∈ givenIds turns ∧ s.state.directory.get? id = none)) ∧
      (∀ turn ∈ turns, ∀ id,
        actionsOf id turn.events =
          changeOf (turn.before.state.standing id) (turn.after.state.standing id) ∧
        ∀ b, turn.before.state.standing id = some b → turn.after.state.standing id = some !b →
          ∃ found, turn.call = .healthRound found) ∧
      (∀ probe : TempProvider → ProbeOutcome, (Call.healthRound
        (s.state.directory.list.map fun p => (p.id, probe p))).ProbesOnce) ∧
      (Metrics.empty.observeAll (reported turns)).providerFailures =
        (turns.map fun turn => (fallen turn).length).sum ∧
      (Metrics.empty.observeAll (reported turns)).providersRemoved =
        ((givenIds turns).filter fun id => s.state.directory.get? id = none).length := by
  have counted := counters_observeAll .empty (reported turns)
  have told_once := fun id => (story_of_run run fresh once id).count_deregistered
  have gone_iff : ∀ id, s.state.standing id = none ↔ s.state.directory.get? id = none :=
    fun id => Option.map_eq_none_iff
  simp only [told_iff_given run, gone_iff] at told_once
  refine ⟨fun id => ⟨story_of_run run fresh once id, told_iff_given run, ?_⟩,
    fun turn hturn id => ?_, probesOnce_listed (kept_of_run run (kept_idle catalog)).keyed, ?_, ?_⟩
  · rw [← List.count_pos_iff, told_once]
    split <;> simp [*]
  · obtain ⟨chapter, told⟩ := chapter_of_mem run fresh once hturn id
    refine ⟨told, fun b before after => ?_⟩
    rw [before, after] at chapter
    exact chapter.round
  · have each : ∀ turn ∈ turns, (idsOf .unhealthy turn.events).length = (fallen turn).length :=
      fun turn hturn => length_fallen fun id => (chapter_of_mem run fresh once hturn id).2
    rw [counted.1, idsOf_reported, List.length_flatMap, List.map_congr_left each]
    exact Nat.zero_add _
  · rw [counted.2, length_idsOf (fresh.filter _) fun id => ?_]
    · exact Nat.zero_add _
    · simp only [told_once, List.mem_filter, decide_eq_true_eq]

/-- One provider fails, recovers and fails for too long, another one is taken out while it is healthy, and
a third one stays. -/
theorem three_stories : ∃ turns s,
    Run (Call.perform (.firstCome : Strategy Double) ⟨seconds 60, 1⟩ ⟨30, 5, 10⟩)
      ⟨0, idle .empty⟩ turns s ∧
    (givenIds turns).Nodup ∧ (∀ turn ∈ turns, turn.call.ProbesOnce) ∧
    actionsOf "p" (reported turns) =
      [.registered, .unhealthy, .recovered, .unhealthy, .deregistered] ∧
    actionsOf "q" (reported turns) = [.registered, .deregistered] ∧
    Story (some true) (actionsOf "r" (reported turns)) ∧
    (Metrics.empty.observeAll (reported turns)).providerFailures = 2 ∧
    (Metrics.empty.observeAll (reported turns)).providersRemoved = 2 := by
  have played : ((play (Call.perform (.firstCome : Strategy Double) ⟨seconds 60, 1⟩ ⟨30, 5, 10⟩)
      [.register "p" ⟨"p", "http://p", none, none, ["m"]⟩,
        .register "q" ⟨"q", "http://q", none, none, ["m"]⟩,
        .register "r" ⟨"r", "http://r", none, none, ["n"]⟩,
        .healthRound [("p", .unreachable ""), ("q", .reachable "/v1/models" 200)],
        .healthRound [("p", .reachable "/v1/models" 200)], .deregister "q",
        .healthRound [("p", .unreachable ""), ("r", .reachable "/v1/models" 200)],
        .manage (.advance (seconds 11)), .healthRound [("p", .unreachable "")]]
      ⟨0, idle .empty⟩).toOption.map fun r =>
        decide ((givenIds r.1).Nodup ∧ (∀ turn ∈ r.1, turn.call.ProbesOnce) ∧
          r.2.state.standing "r" = some true ∧
          actionsOf "p" (reported r.1) =
            [.registered, .unhealthy, .recovered, .unhealthy, .deregistered] ∧
          actionsOf "q" (reported r.1) = [.registered, .deregistered] ∧
          (r.1.map fun turn => (fallen turn).length).sum = 2 ∧
          ((givenIds r.1).filter fun id => r.2.state.directory.get? id = none).length = 2)) =
      some true := by
    decide +kernel
  obtain ⟨turns, s, run, seen⟩ := Run.exists_of_play played
  obtain ⟨fresh, once, healthy, first, second, fell, left⟩ := of_decide_eq_true seen
  obtain ⟨stories, _, _, failures, removed⟩ := reports_tell_stories run fresh once
  have third := (stories "r").1
  rw [healthy] at third
  exact ⟨turns, s, run, fresh, once, first, second, third, failures.trans fell, removed.trans left⟩

end Runs

end Fleet

end InferenceDispatch
