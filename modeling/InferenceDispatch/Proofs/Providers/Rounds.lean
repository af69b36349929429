import InferenceDispatch.Proofs.Manager.Withdrawal
import InferenceDispatch.Proofs.Providers.Calls

namespace InferenceDispatch

def TempProvider.offer (p : TempProvider) : String × List String := (p.id, p.models)

namespace Directory

/-- The providers `gone` left, and their models with them. -/
structure Departed (gone : List String) (d d' : Directory) : Prop where
  nodup : gone.Nodup
  known : ∀ id ∈ gone, ∃ p, d.get? id = some p
  offers : ∀ id, (d'.get? id).map TempProvider.offer =
    if id ∈ gone then none else (d.get? id).map TempProvider.offer
  catalog : ∀ model, d'.catalog.get? model =
    (d.catalog.get? model).filter fun e => e.provider ∉ gone

namespace Departed

variable {gone more : List String} {d d₁ d' : Directory} {id : String}

theorem refl (d : Directory) : Departed [] d d where
  nodup := List.nodup_nil
  known := by simp
  offers := by simp
  catalog := fun model => by cases h : d.catalog.get? model <;> simp [Option.filter]

theorem get?_eq_none (h : Departed gone d d') (hid : id ∈ gone) : d'.get? id = none := by
  have offer := h.offers id
  rw [if_pos hid] at offer
  exact Option.map_eq_none_iff.mp offer

theorem stayed (h : Departed gone d d') {p' : TempProvider} (hp : d'.get? id = some p') :
    id ∉ gone ∧ ∃ p, d.get? id = some p ∧ p'.offer = p.offer := by
  have offer := h.offers id
  rw [hp, Option.map_some] at offer
  split at offer
  next => cases offer
  next hid =>
    obtain ⟨p, hp, he⟩ := Option.map_eq_some_iff.mp offer.symm
    exact ⟨hid, p, hp, he.symm⟩

theorem stays (h : Departed gone d d') (hid : id ∉ gone) {p : TempProvider}
    (hp : d.get? id = some p) : ∃ p', d'.get? id = some p' ∧ p'.offer = p.offer := by
  have offer := h.offers id
  rw [if_neg hid, hp, Option.map_some] at offer
  exact Option.map_eq_some_iff.mp offer

theorem left (h : Departed gone d d') (before : d.get? id ≠ none) (after : d'.get? id = none) :
    id ∈ gone := by
  by_contra hid
  obtain ⟨p, hp⟩ := Option.ne_none_iff_exists'.mp before
  obtain ⟨p', hp', _⟩ := h.stays hid hp
  rw [after] at hp'
  cases hp'

theorem trans (first : Departed gone d d₁) (last : Departed more d₁ d') :
    Departed (gone ++ more) d d' where
  nodup := by
    refine List.nodup_append.mpr ⟨first.nodup, last.nodup, ?_⟩
    rintro id hid _ hmore rfl
    obtain ⟨p, hp⟩ := last.known id hmore
    rw [first.get?_eq_none hid] at hp
    cases hp
  known := by
    intro id hid
    rcases List.mem_append.mp hid with hid | hmore
    · exact first.known id hid
    · obtain ⟨p₁, hp₁⟩ := last.known id hmore
      obtain ⟨_, p, hp, _⟩ := first.stayed hp₁
      exact ⟨p, hp⟩
  offers := by
    intro id
    rw [last.offers, first.offers]
    by_cases hmore : id ∈ more <;> by_cases hid : id ∈ gone <;> simp [hmore, hid]
  catalog := by
    intro model
    rw [last.catalog, first.catalog, Option.filter_filter]
    congr 1
    funext e
    simp

end Departed

section Deregister

variable {d : Directory} {id : String} {p : TempProvider}

theorem departed_without (hp : d.get? id = some p) :
    Departed [id] d ⟨d.providers.erase id, d.catalog.removeProvider id⟩ where
  nodup := List.nodup_singleton id
  known := by
    intro x hx
    obtain rfl := List.mem_singleton.mp hx
    exact ⟨p, hp⟩
  offers := by
    intro x
    simp only [get?, Table.get?_erase, List.mem_singleton]
    split <;> rfl
  catalog := by
    intro model
    simp only [List.mem_singleton]
    exact SortedMap.get?_filter ..

theorem departed_deregister (id : String) (now : Time) (d : Directory) :
    ∃ gone, Departed gone d (d.deregister id now).state ∧ ∀ x ∈ gone, x = id := by
  unfold deregister
  split
  next => exact ⟨[], .refl d, by simp⟩
  next p hp => exact ⟨[id], departed_without hp, by simp⟩

theorem departed_deregisterOwner (owner : Nat) (now : Time) (d : Directory) :
    ∃ gone, Departed gone d (d.deregisterOwner owner now).state := by
  -- the fold goes on from whatever directory the departures so far have left
  have fold : ∀ (ps : List TempProvider) (e : Effect Directory (List TempProvider)),
      ∃ gone, Departed gone e.state (ps.foldl (fun e p => e.andThen fun left d =>
        (d.deregister p.id now).map fun q => left ++ q.toList) e).state := by
    intro ps
    induction ps with
    | nil => exact fun e => ⟨[], .refl e.state⟩
    | cons p ps ih =>
      intro e
      obtain ⟨gone, first, _⟩ := departed_deregister p.id now e.state
      obtain ⟨more, last⟩ := ih (e.andThen fun left d =>
        (d.deregister p.id now).map fun q => left ++ q.toList)
      exact ⟨gone ++ more, first.trans last⟩
  exact fold _ (.answerOnly d [])

theorem departed_update (d : Directory) (id : String) {f : TempProvider → TempProvider}
    (same : ∀ p, (f p).offer = p.offer) : Departed [] d (d.update id f) where
  nodup := List.nodup_nil
  known := by simp
  offers := by
    intro x
    rw [update, get?, Table.get?_modify, if_neg List.not_mem_nil]
    split
    next => cases hx : d.providers.get? x <;> simp [get?, hx, same]
    next => rfl
  catalog := (Departed.refl d).catalog

end Deregister

end Directory

namespace Fleet

/-- The providers `gone` left, and the tickets `failed` have failed for it; of the other providers none
changed but those in `touched`. -/
structure Dropped (touched gone : List String) (failed : List Ticket) (now : Time) (f f' : Fleet) :
    Prop where
  directory : Directory.Departed gone f.directory f'.directory
  manager : Manager.Withdrawn gone failed now f.manager f'.manager
  others : ∀ id, id ∉ touched → f'.directory.get? id = f.directory.get? id

namespace Dropped

variable {touched touched' gone more : List String} {failed later : List Ticket} {now : Time}
  {f f₁ f' : Fleet}

theorem refl (h : f.manager.Sound) : Dropped touched [] [] now f f :=
  ⟨.refl f.directory, .refl h now, fun _ _ => rfl⟩

theorem mono (h : Dropped touched gone failed now f f') (sub : touched ⊆ touched') :
    Dropped touched' gone failed now f f' :=
  ⟨h.directory, h.manager, fun id hid => h.others id fun ht => hid (sub ht)⟩

theorem trans (first : Dropped touched gone failed now f f₁)
    (last : Dropped touched' more later now f₁ f') :
    Dropped (touched ++ touched') (gone ++ more) (failed ++ later) now f f' where
  directory := first.directory.trans last.directory
  manager := first.manager.trans last.manager
  others := by
    intro id hid
    obtain ⟨hfirst, hlast⟩ := not_or.mp fun h => hid (List.mem_append.mpr h)
    rw [last.others id hlast, first.others id hfirst]

end Dropped

section Change

variable {now : Time} {f : Fleet} (h : f.manager.Sound) (id : String)
include h

theorem dropped_update {g : TempProvider → TempProvider} (same : ∀ p, (g p).offer = p.offer) :
    Dropped [id] [] [] now f { f with directory := f.directory.update id g } where
  directory := Directory.departed_update f.directory id same
  manager := .refl h now
  others := by
    intro x hx
    rw [Directory.update, Directory.get?, Table.get?_modify, if_neg (by simpa using hx)]
    rfl

theorem dropped_remove {p : TempProvider} (hp : f.directory.get? id = some p) :
    ∃ failed, (f.remove id now).answer = some failed ∧
      Dropped [id] [id] failed now f (f.remove id now).state := by
  let rest : Directory := ⟨f.directory.providers.erase id, f.directory.catalog.removeProvider id⟩
  let withdrawal := f.manager.withdraw now id
  have answered : (f.remove id now).answer = some withdrawal.answer := by
    simp only [remove, inDirectory, Directory.deregister, hp]
    rfl
  have left : (f.remove id now).state = ⟨rest, withdrawal.state⟩ := by
    simp only [remove, inDirectory, Directory.deregister, hp]
    rfl
  refine ⟨withdrawal.answer, answered, ?_⟩
  rw [left]
  refine ⟨Directory.departed_without hp, Manager.withdrawn_withdraw h now id, fun x hx => ?_⟩
  exact (Table.get?_erase ..).trans (if_neg (by simpa using hx))

end Change

/-- A probe missed a registered provider that has been out of reach for too long. -/
def Overdue (settings : HealthSettings) (now : Time) (f : Fleet)
    (found : List (String × ProbeOutcome)) (id : String) : Prop :=
  ∃ reason p, (id, ProbeOutcome.unreachable reason) ∈ found ∧ f.directory.get? id = some p ∧
    settings.removeAfter < elapsed (p.unhealthySince.getD now) now

structure Noted (settings : HealthSettings) (now : Time) (found : List (String × ProbeOutcome))
    (gone : List String) (failed : List Ticket) (f : Fleet) (report : HealthReport)
    (e : Effect Fleet HealthReport) : Prop where
  dropped : Dropped (found.map Prod.fst) gone failed now f e.state
  report : e.answer =
    { probed := report.probed
      healthy := report.healthy + found.countP fun o => o.2.isReachable
      unhealthy := report.unhealthy + found.countP fun o => !o.2.isReachable
      removed := report.removed ++ gone
      failedTickets := report.failedTickets ++ failed }
  removed : (found.map Prod.fst).Nodup → ∀ id, id ∈ gone ↔ Overdue settings now f found id

section Noted

variable {settings : HealthSettings} {now : Time} {f : Fleet}

theorem overdue_single {id x : String} {reason : String} {p : TempProvider}
    (hp : f.directory.get? id = some p) :
    Overdue settings now f [(id, .unreachable reason)] x ↔
      x = id ∧ settings.removeAfter < elapsed (p.unhealthySince.getD now) now := by
  constructor
  · rintro ⟨_, q, hx, hq, late⟩
    obtain ⟨rfl, _⟩ := Prod.mk.inj (List.mem_singleton.mp hx)
    rw [hp] at hq
    cases hq
    exact ⟨rfl, late⟩
  · rintro ⟨rfl, late⟩
    exact ⟨reason, p, List.mem_singleton_self _, hp, late⟩

theorem noted_kept {id : String} {outcome : ProbeOutcome} {report : HealthReport}
    {e : Effect Fleet HealthReport} (kept : Dropped [id] [] [] now f e.state)
    (on_time : ∀ x, ¬Overdue settings now f [(id, outcome)] x)
    (counted : e.answer = { report with
      healthy := report.healthy + [(id, outcome)].countP fun o => o.2.isReachable
      unhealthy := report.unhealthy + [(id, outcome)].countP fun o => !o.2.isReachable }) :
    Noted settings now [(id, outcome)] [] [] f report e where
  dropped := kept
  report := by simp [counted]
  removed := fun _ x => iff_of_false List.not_mem_nil (on_time x)

section Outcome

variable (h : f.manager.Sound) (settings : HealthSettings) (now : Time) {id : String}
  (report : HealthReport)
include h

theorem noted_unknown (hp : f.directory.get? id = none) (outcome : ProbeOutcome) :
    Noted settings now [(id, outcome)] [] [] f report
      (f.noteOutcome settings now id outcome report) := by
  have on_time : ∀ x, ¬Overdue settings now f [(id, outcome)] x := by
    rintro x ⟨_, q, hx, hq, _⟩
    obtain ⟨rfl, _⟩ := Prod.mk.inj (List.mem_singleton.mp hx)
    rw [hp] at hq
    cases hq
  cases outcome with
  | reachable =>
    simp only [noteOutcome, hp]
    exact noted_kept (.refl h) on_time rfl
  | unreachable =>
    simp only [noteOutcome, hp]
    exact noted_kept (.refl h) on_time rfl

theorem noted_reachable {p : TempProvider} (hp : f.directory.get? id = some p) (endpoint : String)
    (status : Nat) : Noted settings now [(id, .reachable endpoint status)] [] [] f report
      (f.noteOutcome settings now id (.reachable endpoint status) report) := by
  simp only [noteOutcome, hp]
  refine noted_kept (dropped_update h id fun _ => rfl) ?_ rfl
  rintro x ⟨reason, p, hx, _⟩
  simp at hx

theorem noted_unreachable {p : TempProvider} (hp : f.directory.get? id = some p) (reason : String) :
    ∃ gone failed, Noted settings now [(id, .unreachable reason)] gone failed f report
      (f.noteOutcome settings now id (.unreachable reason) report) := by
  have missed : Dropped [id] [] [] now f (f.noteUnreachable id now p).state :=
    dropped_update h id fun _ => rfl
  simp only [noteOutcome, hp, Effect.andThen]
  split
  next late =>
    obtain ⟨q, hq, _⟩ := missed.directory.stays List.not_mem_nil hp
    obtain ⟨failed, answered, removed⟩ := dropped_remove missed.manager.sound id hq
    refine ⟨[id], failed, (missed.trans removed).mono (by simp), ?_, fun _ x => ?_⟩
    · simp [Effect.map, answered, ProbeOutcome.isReachable]
    · rw [overdue_single hp, List.mem_singleton]
      exact (and_iff_left late).symm
  next early =>
    refine ⟨[], [], noted_kept missed (fun x => ?_) rfl⟩
    rw [overdue_single hp]
    exact fun hx => early hx.2

theorem noted_outcome (id : String) (outcome : ProbeOutcome) :
    ∃ gone failed, Noted settings now [(id, outcome)] gone failed f report
      (f.noteOutcome settings now id outcome report) := by
  cases hp : f.directory.get? id with
  | none => exact ⟨[], [], noted_unknown h settings now report hp outcome⟩
  | some p =>
    cases outcome with
    | reachable endpoint status =>
      exact ⟨[], [], noted_reachable h settings now report hp endpoint status⟩
    | unreachable reason => exact noted_unreachable h settings now report hp reason

end Outcome

theorem Noted.counted {found : List (String × ProbeOutcome)} {gone : List String}
    {failed : List Ticket} {report : HealthReport} {e : Effect Fleet HealthReport}
    (noted : Noted settings now found gone failed f report e) :
    e.answer.healthy + e.answer.unhealthy =
      report.healthy + report.unhealthy + found.length := by
  have each := found.length_eq_countP_add_countP fun o => o.2.isReachable
  have missed : (found.countP fun o => !o.2.isReachable) =
      found.countP fun o => decide ¬o.2.isReachable = true := by simp
  rw [noted.report]
  dsimp only
  omega

theorem Noted.cons {o : String × ProbeOutcome} {found : List (String × ProbeOutcome)}
    {gone more : List String} {failed later : List Ticket} {report : HealthReport}
    {e e' : Effect Fleet HealthReport} (first : Noted settings now [o] gone failed f report e)
    (last : Noted settings now found more later e.state e.answer e') :
    Noted settings now (o :: found) (gone ++ more) (failed ++ later) f report e' where
  dropped := first.dropped.trans last.dropped
  report := by
    rw [last.report, first.report]
    simp only [List.countP_cons, List.countP_nil, List.append_assoc]
    congr 1 <;> omega
  removed := by
    intro nodup id
    obtain ⟨apart, nodup⟩ := List.nodup_cons.mp nodup
    rw [List.mem_append, first.removed (by simp), last.removed nodup]
    -- the later probes are of other providers, which the first outcome does not touch
    have later : Overdue settings now e.state found id ↔ Overdue settings now f found id := by
      refine exists_congr fun reason => exists_congr fun p => and_congr_right fun hm => ?_
      have hid : id ≠ o.1 := fun hid => apart (hid ▸ List.mem_map_of_mem hm)
      rw [first.dropped.others id (by simpa using hid)]
    rw [later]
    constructor
    · rintro (⟨reason, p, hm, hp⟩ | ⟨reason, p, hm, hp⟩)
      · exact ⟨reason, p, List.mem_singleton.mp hm ▸ List.mem_cons_self, hp⟩
      · exact ⟨reason, p, List.mem_cons_of_mem _ hm, hp⟩
    · rintro ⟨reason, p, hm, hp⟩
      rcases List.mem_cons.mp hm with rfl | hm
      · exact Or.inl ⟨reason, p, List.mem_singleton_self _, hp⟩
      · exact Or.inr ⟨reason, p, hm, hp⟩

/-- A round takes out the providers that are overdue by then, with their work. -/
theorem noted_outcomes (h : f.manager.Sound) (settings : HealthSettings) (now : Time)
    (found : List (String × ProbeOutcome)) :
    ∃ gone failed, Noted settings now found gone failed f
      { HealthReport.empty with probed := found.length } (f.noteOutcomes settings now found) := by
  -- the fold goes on from whatever report and fleet the outcomes so far have left
  have fold : ∀ (found : List (String × ProbeOutcome)) (e : Effect Fleet HealthReport),
      e.state.manager.Sound → ∃ gone failed, Noted settings now found gone failed e.state e.answer
        (found.foldl (fun e o =>
          e.andThen fun report f => f.noteOutcome settings now o.1 o.2 report) e) := by
    intro found
    induction found with
    | nil =>
      intro e h
      exact ⟨[], [], .refl h, by simp, by simp [Overdue]⟩
    | cons o found ih =>
      intro e h
      obtain ⟨gone, failed, first⟩ := noted_outcome h settings now e.answer o.1 o.2
      obtain ⟨more, later, last⟩ := ih
        (e.andThen fun report f => f.noteOutcome settings now o.1 o.2 report)
        first.dropped.manager.sound
      exact ⟨gone ++ more, failed ++ later, first.cons last⟩
  exact fold found (.answerOnly f { HealthReport.empty with probed := found.length }) h

end Noted

end Fleet

end InferenceDispatch
