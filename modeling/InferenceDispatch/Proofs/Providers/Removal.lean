import InferenceDispatch.Number.Double
import InferenceDispatch.Proofs.Manager.History
import InferenceDispatch.Proofs.Providers.Rounds

namespace InferenceDispatch

namespace Directory

variable {d d' : Directory} {gone : List String}

def Keyed (d : Directory) : Prop := ∀ id p, d.get? id = some p → p.id = id

theorem Departed.keyed (h : Departed gone d d') (keyed : d.Keyed) : d'.Keyed := by
  intro id p' hp'
  obtain ⟨_, p, hp, same⟩ := h.stayed hp'
  have hid : p'.id = p.id := (Prod.mk.inj same).1
  rw [hid, keyed id p hp]

theorem keyed_register (keyed : d.Keyed) (id : String) (r : Registration) (now : Time) :
    (d.register id r now).state.Keyed := by
  intro x p hp
  rw [get?, register, Table.get?_insert] at hp
  split at hp
  next hx =>
    cases hp
    exact hx.symm
  next => exact keyed x p hp

theorem keyed_setModels (keyed : d.Keyed) (id : String) (models : List String) :
    (d.setModels id models).1.Keyed := by
  unfold setModels
  split
  next =>
    intro x p hp
    rw [get?, Table.get?_modify] at hp
    split at hp
    next =>
      obtain ⟨q, hq, rfl⟩ := Option.map_eq_some_iff.mp hp
      exact keyed x q hq
    next => exact keyed x p hp
  next => exact keyed

theorem get?_eq_none_of_register {id x : String} {r : Registration} {now : Time}
    (h : (d.register id r now).state.get? x = none) : d.get? x = none := by
  rw [get?, register, Table.get?_insert] at h
  split at h
  next => cases h
  next => exact h

theorem get?_eq_none_of_setModels {id x : String} {models : List String}
    (h : (d.setModels id models).1.get? x = none) : d.get? x = none := by
  unfold setModels at h
  split at h
  next =>
    rw [get?, Table.get?_modify] at h
    split at h
    next => exact Option.map_eq_none_iff.mp h
    next => exact h
  next => exact h

theorem mem_list (keyed : d.Keyed) {p : TempProvider} :
    p ∈ d.list ↔ d.get? p.id = some p := by
  rw [list, List.mem_mergeSort, get?, Table.get?_eq_some_iff, Table.values, List.mem_map]
  constructor
  · rintro ⟨⟨id, q⟩, he, rfl⟩
    rwa [keyed id q (Table.get?_eq_some_iff.mpr he)]
  · exact fun he => ⟨(p.id, p), he, rfl⟩

theorem nodup_list_ids (keyed : d.Keyed) : (d.list.map TempProvider.id).Nodup := by
  have keys : d.providers.values.map TempProvider.id = d.providers.keys := by
    rw [Table.values, List.map_map, Table.keys]
    exact List.map_congr_left fun e he => keyed e.1 e.2 (Table.get?_eq_some_iff.mpr he)
  have sorted := (List.mergeSort_perm d.providers.values TempProvider.listedBefore).map
    TempProvider.id
  rw [list, sorted.nodup_iff, keys]
  exact d.providers.nodup

theorem length_list (d : Directory) : d.list.length = d.size := by
  rw [list, List.length_mergeSort, Table.values, List.length_map]
  rfl

end Directory

namespace Manager

/-- No work waits for the provider any more, and what waited for it alone has failed. -/
structure Cleared (provider : String) (m m' : Manager) : Prop where
  entries : ∀ e ∈ m'.scheduler.queue.entries, e.key.provider ≠ provider
  failed : ∀ t, m.status? t = some .queued →
    (∀ e ∈ m.scheduler.queue.entries, e.task.ticket = t → e.key.provider = provider) →
      m'.status? t = some .failed

theorem Withdrawn.cleared {gone : List String} {failed : List Ticket} {now : Time} {m m' : Manager}
    (w : Withdrawn gone failed now m m') {provider : String} (h : provider ∈ gone) :
    Cleared provider m m' where
  entries := by
    rintro e he rfl
    exact (w.mem_entries.mp he).2 h
  failed := by
    intro t queued all
    refine w.status_failed ((w.mem_failed t).mpr ⟨queued, fun e he ht => ?_⟩)
    rw [all e he ht]
    exact h

theorem Sound.cleared_self_iff {m : Manager} (h : m.Sound) (provider : String) :
    Cleared provider m m ↔ ∀ e ∈ m.scheduler.queue.entries, e.key.provider ≠ provider := by
  refine ⟨Cleared.entries, fun none_waits => ⟨none_waits, fun t queued all => ?_⟩⟩
  -- a queued ticket has an entry, which would wait for the provider
  obtain ⟨e, he, ht⟩ := (h.linked.status_queued_iff t).mp queued
  exact absurd (all e he ht) (none_waits e he)

/-- A health round fails the tickets that it leaves without a provider, and no others. -/
structure FailsStranded (report : HealthReport) (m m' : Manager) : Prop where
  nodup : report.failedTickets.Nodup
  mem_failed : ∀ t, t ∈ report.failedTickets ↔ m.status? t = some .queued ∧
    ∀ e ∈ m.scheduler.queue.entries, e.task.ticket = t → e.key.provider ∈ report.removed
  failed : ∀ t ∈ report.failedTickets, m'.status? t = some .failed
  others : ∀ t, t ∉ report.failedTickets → m'.tickets.get? t = m.tickets.get? t
  entries : m'.scheduler.queue.entries =
    m.scheduler.queue.entries.filter fun e => e.key.provider ∉ report.removed
  lanes : ∀ key tier, m'.scheduler.queue.lane key tier =
    if key.provider ∈ report.removed then [] else m.scheduler.queue.lane key tier

theorem Withdrawn.failsStranded {report : HealthReport} {now : Time} {m m' : Manager}
    (w : Withdrawn report.removed report.failedTickets now m m') : FailsStranded report m m' where
  nodup := w.nodup
  mem_failed := w.mem_failed
  failed := fun _ ht => w.status_failed ht
  others := fun t ht => (w.tickets t).trans (if_neg ht)
  entries := w.entries
  lanes := by
    intro key tier
    rw [Queue.lane, Queue.lane, w.lanes, Table.get?_filter]
    cases m.scheduler.queue.lanes.get? key with
    | none => simp
    | some l => by_cases h : key.provider ∈ report.removed <;> simp [h, Option.filter]

end Manager

namespace Fleet

inductive Step (health : HealthSettings) (now : Time) (f : Fleet) : Call → Fleet → Prop
  | managed {c m} : Manager.Sound m → Step health now f (.manage c) { f with manager := m }
  | registered {c id} (r : Registration) : c.newId? = some id →
      Step health now f c { f with directory := (f.directory.register id r now).state }
  | relisted {id models} : Step health now f (.setModels id models)
      { f with directory := (f.directory.setModels id models).1 }
  | left {c gone directory} :
      (∀ id ∈ gone, c = .deregister id ∨ ∃ owner, c = .deregisterOwner owner) →
      Directory.Departed gone f.directory directory → Step health now f c { f with directory }
  | rounded {found gone failed e} : Noted health now found gone failed f
      { HealthReport.empty with probed := found.length } e →
      Step health now f (.healthRound found) e.state

structure Kept (f : Fleet) : Prop where
  sound : f.manager.Sound
  keyed : f.directory.Keyed

theorem kept_idle (catalog : Catalog Double) : (idle catalog).Kept where
  sound := Manager.sound_empty
  keyed := fun _ _ hp => by cases hp

/-- What becomes of the work of a provider that leaves in a call: a health round clears it away, and the
other calls leave it for a withdrawal. -/
def ClearedBy (c : Call) (id : String) (m m' : Manager) : Prop :=
  (∃ found, c = .healthRound found ∧ Manager.Cleared id m m') ∨
    (c = .deregister id ∨ ∃ owner, c = .deregisterOwner owner) ∧ m' = m ∧
      (Manager.Cleared id m m' ↔ ∀ e ∈ m.scheduler.queue.entries, e.key.provider ≠ id) ∧
      ∀ now, Manager.Cleared id m (m'.withdraw now id).state

namespace Step

variable {health : HealthSettings} {now : Time} {f f' : Fleet} {c : Call}

theorem kept (step : Step health now f c f') (kept : f.Kept) : f'.Kept := by
  obtain ⟨sound, keyed⟩ := kept
  cases step with
  | managed sound => exact ⟨sound, keyed⟩
  | registered r => exact ⟨sound, Directory.keyed_register keyed _ r now⟩
  | relisted => exact ⟨sound, Directory.keyed_setModels keyed _ _⟩
  | left _ left => exact ⟨sound, left.keyed keyed⟩
  | rounded noted =>
    exact ⟨noted.dropped.manager.sound, noted.dropped.directory.keyed keyed⟩

theorem clearedBy (step : Step health now f c f') (sound : f.manager.Sound) {id : String}
    (before : f.directory.get? id ≠ none) (after : f'.directory.get? id = none) :
    ClearedBy c id f.manager f'.manager := by
  cases step with
  | managed => exact absurd after before
  | registered => exact absurd (Directory.get?_eq_none_of_register after) before
  | relisted => exact absurd (Directory.get?_eq_none_of_setModels after) before
  | left why left =>
    -- the manager was not asked, so a withdrawal finds all the work that there was
    refine Or.inr ⟨why id (left.left before after), rfl, sound.cleared_self_iff id, fun now => ?_⟩
    exact (Manager.withdrawn_withdraw sound now id).cleared (List.mem_singleton_self id)
  | @rounded found _ _ _ noted =>
    have gone := noted.dropped.directory.left before after
    exact Or.inl ⟨found, rfl, noted.dropped.manager.cleared gone⟩

end Step

section Perform

variable {α : Type} [OfScientific α] [Add α] [Sub α] [Mul α] [LE α] [LT α]
  [DecidableLE α] [DecidableLT α] {strategy : Strategy α} {settings : ManagerSettings}
  {health : HealthSettings} {s s₀ : Clocked Fleet} {c : Call} {e : Effect (Clocked Fleet) Answer}
  {turns : List (Turn (Clocked Fleet) Call Answer)}

theorem step_perform (sound : s.state.manager.Sound)
    (hc : c.perform strategy settings health s = .ok e) :
    Step health s.now s.state c e.state.state := by
  cases c with
  | manage c =>
    obtain ⟨e', hc', hstate⟩ := perform_manage hc
    rw [hstate]
    exact .managed (Manager.step_perform sound hc').sound
  | register id r =>
    cases hc
    exact .registered r rfl
  | registerDiscovered id net r =>
    cases hc
    exact .registered (Discovery.complete net r) rfl
  | setModels id models =>
    cases hc
    exact .relisted
  | deregister id =>
    cases hc
    obtain ⟨gone, left, only⟩ := Directory.departed_deregister id s.now s.state.directory
    exact .left (fun x hx => Or.inl (congrArg Call.deregister (only x hx).symm)) left
  | deregisterOwner owner =>
    cases hc
    obtain ⟨gone, left⟩ := Directory.departed_deregisterOwner owner s.now s.state.directory
    exact .left (fun _ _ => Or.inr ⟨owner, rfl⟩) left
  | healthRound found =>
    cases hc
    obtain ⟨gone, failed, noted⟩ := noted_outcomes sound health s.now found
    exact .rounded noted

theorem kept_perform (kept : s.state.Kept) (hc : c.perform strategy settings health s = .ok e) :
    e.state.state.Kept :=
  (step_perform kept.sound hc).kept kept

theorem kept_of_run (run : Run (Call.perform strategy settings health) s₀ turns s)
    (kept : s₀.state.Kept) : s.state.Kept :=
  run.keeps (I := fun s => s.state.Kept) (fun _ _ _ => kept_perform) kept

theorem overdue_probed {f : Fleet} (keyed : f.directory.Keyed) {order : List TempProvider}
    (perm : order.Perm f.directory.list) (probe : TempProvider → ProbeOutcome) (now : Time)
    (id : String) :
    Overdue health now f (order.map fun p => (p.id, probe p)) id ↔
      ∃ p reason, f.directory.get? id = some p ∧ probe p = .unreachable reason ∧
        health.removeAfter < elapsed (p.unhealthySince.getD now) now := by
  constructor
  · rintro ⟨reason, p, found, hp, late⟩
    obtain ⟨q, hq, he⟩ := List.mem_map.mp found
    obtain ⟨rfl, missed⟩ := Prod.mk.inj he
    have registered := (Directory.mem_list keyed).mp (perm.mem_iff.mp hq)
    obtain rfl : q = p := Option.some.inj (registered.symm.trans hp)
    exact ⟨q, reason, hp, missed, late⟩
  · rintro ⟨p, reason, hp, missed, late⟩
    obtain rfl := keyed id p hp
    have probed : p ∈ order := perm.mem_iff.mpr ((Directory.mem_list keyed).mpr hp)
    exact ⟨reason, p, List.mem_map.mpr ⟨p, probed, by rw [missed]⟩, hp, late⟩

/-- Wherever a run has led, a health round fails the tickets that it leaves without a provider, each
once, in whatever order the outcomes of its probes are taken in; `healthRound` takes them in as the
providers are listed. -/
theorem round_fails_stranded {start : Time} {catalog : Catalog Double}
    (run : Run (Call.perform strategy settings health) ⟨start, idle catalog⟩ turns s)
    (probe : TempProvider → ProbeOutcome) (now : Time) {order : List TempProvider}
    (perm : order.Perm s.state.directory.list) :
    let round := s.state.noteOutcomes health now (order.map fun p => (p.id, probe p))
    Manager.FailsStranded round.answer s.state.manager round.state.manager ∧
      round.answer.probed = s.state.directory.size ∧
      round.answer.healthy + round.answer.unhealthy = round.answer.probed ∧
      round.answer.removed.Nodup ∧
      (∀ id, id ∈ round.answer.removed ↔ ∃ p reason, s.state.directory.get? id = some p ∧
        probe p = .unreachable reason ∧
        health.removeAfter < elapsed (p.unhealthySince.getD now) now) ∧
      ∀ id ∈ round.answer.removed, round.state.directory.get? id = none := by
  intro round
  obtain ⟨sound, keyed⟩ := kept_of_run run (kept_idle catalog)
  obtain ⟨gone, failed, noted⟩ := noted_outcomes sound health now
    (order.map fun p => (p.id, probe p))
  have removed : round.answer.removed = gone := congrArg HealthReport.removed noted.report
  have tickets : round.answer.failedTickets = failed :=
    congrArg HealthReport.failedTickets noted.report
  have probed : round.answer.probed = order.length := by
    simpa using congrArg HealthReport.probed noted.report
  have counted : round.answer.healthy + round.answer.unhealthy = order.length := by
    simpa [HealthReport.empty] using noted.counted
  have ids : ((order.map fun p => (p.id, probe p)).map Prod.fst).Nodup := by
    rw [List.map_map]
    exact (perm.map TempProvider.id).nodup_iff.mpr (Directory.nodup_list_ids keyed)
  obtain ⟨left, withdrawn⟩ := noted.dropped
  rw [← removed] at left withdrawn
  rw [← tickets] at withdrawn
  refine ⟨withdrawn.failsStranded, ?_, counted.trans probed.symm, left.nodup, fun id => ?_,
    fun _ hid => left.get?_eq_none hid⟩
  · rw [probed, perm.length_eq, Directory.length_list]
  · rw [removed, noted.removed ids, overdue_probed keyed perm]

/-- Three providers go in one round. The request for two of them fails, once; the one that has another
provider to wait for stays. -/
theorem last_provider_gone : ∃ turns s,
    Run (Call.perform (.firstCome : Strategy Double) ⟨seconds 60, 1⟩ ⟨30, 5, 0⟩)
      ⟨0, idle .empty⟩ turns s ∧
    let round := s.state.healthRound ⟨30, 5, 0⟩ s.now fun _ => .unreachable ""
    round.answer.removed = ["p", "q", "r"] ∧ round.answer.failedTickets = [1] ∧
      round.state.manager.status? 2 = some .queued ∧
      Manager.FailsStranded round.answer s.state.manager round.state.manager := by
  have played : ((play (Call.perform (.firstCome : Strategy Double) ⟨seconds 60, 1⟩ ⟨30, 5, 0⟩)
      [.register "p" ⟨"p", "http://p", none, none, ["m"]⟩,
        .register "q" ⟨"q", "http://q", none, none, ["m"]⟩,
        .register "r" ⟨"r", "http://r", none, none, ["m"]⟩,
        .manage (.add "" [⟨"m", "p", 1, .normal⟩, ⟨"m", "q", 1, .normal⟩]),
        .manage (.add "" [⟨"m", "r", 1, .normal⟩, ⟨"n", "cloud", 1, .normal⟩]),
        .healthRound [("p", .unreachable ""), ("q", .unreachable ""), ("r", .unreachable "")],
        .manage (.advance (seconds 1))]
      ⟨0, idle .empty⟩).toOption.map fun r =>
        let listed := r.2.state.directory.providers.values
        let round := r.2.state.noteOutcomes ⟨30, 5, 0⟩ r.2.now
          (listed.map fun p => (p.id, .unreachable ""))
        (decide (listed.Pairwise fun a b => a.listedBefore b), round.answer.removed,
          round.answer.failedTickets, round.state.manager.status? 2)) =
      some (true, ["p", "q", "r"], [1], some .queued) := by
    decide +kernel
  obtain ⟨turns, s, run, seen⟩ := Run.exists_of_play played
  simp only [Prod.mk.injEq] at seen
  obtain ⟨sorted, removed, failed, waits⟩ := seen
  have listed : s.state.directory.list = s.state.directory.providers.values :=
    List.mergeSort_of_pairwise (of_decide_eq_true sorted)
  rw [← listed] at removed failed waits
  exact ⟨turns, s, run, removed, failed, waits,
    (round_fails_stranded run (fun _ => .unreachable "") s.now (.refl _)).1⟩

/-- A provider that leaves in a health round leaves no work behind. One that is taken out of the
directory by itself leaves all of its work as it was, until a withdrawal is asked for. -/
theorem cleared_by_rounds_alone {start : Time} {catalog : Catalog Double}
    (run : Run (Call.perform strategy settings health) ⟨start, idle catalog⟩ turns s)
    {turn : Turn (Clocked Fleet) Call Answer} (ht : turn ∈ turns) {id : String}
    (before : turn.before.state.directory.get? id ≠ none)
    (after : turn.after.state.directory.get? id = none) :
    ClearedBy turn.call id turn.before.state.manager turn.after.state.manager := by
  obtain ⟨kept, hc⟩ := run.keeps_turn (I := fun s => s.state.Kept)
    (fun _ _ _ => kept_perform) (kept_idle catalog) ht
  exact (step_perform kept.sound hc).clearedBy kept.sound before after

/-- The round that finds a provider too long out of reach fails the request that waits for it. -/
theorem cleared_by_round : ∃ turns s,
    Run (Call.perform (.firstCome : Strategy Double) ⟨seconds 60, 1⟩ ⟨30, 5, 0⟩)
      ⟨0, idle .empty⟩ turns s ∧
    ∃ turn ∈ turns, turn.before.state.directory.get? "p" ≠ none ∧
      turn.after.state.directory.get? "p" = none ∧
      turn.before.state.manager.status? 1 = some .queued ∧
      turn.after.state.manager.status? 1 = some .failed ∧
      ClearedBy turn.call "p" turn.before.state.manager turn.after.state.manager := by
  have played : ((play (Call.perform (.firstCome : Strategy Double) ⟨seconds 60, 1⟩ ⟨30, 5, 0⟩)
      [.register "p" ⟨"p", "http://p", none, none, ["m"]⟩,
        .manage (.add "" [⟨"m", "p", 1, .normal⟩]), .healthRound [("p", .unreachable "")],
        .manage (.advance (seconds 1)), .healthRound [("p", .unreachable "")]]
      ⟨0, idle .empty⟩).toOption.map fun r => decide (∃ turn ∈ r.1,
        turn.before.state.directory.get? "p" ≠ none ∧
        turn.after.state.directory.get? "p" = none ∧
        turn.before.state.manager.status? 1 = some .queued ∧
        turn.after.state.manager.status? 1 = some .failed)) = some true := by
    decide +kernel
  obtain ⟨turns, s, run, seen⟩ := Run.exists_of_play played
  obtain ⟨turn, ht, before, after, queued, failed⟩ := of_decide_eq_true seen
  exact ⟨turns, s, run, turn, ht, before, after, queued, failed,
    cleared_by_rounds_alone run ht before after⟩

/-- A provider that is taken out by itself leaves the request queued that waits for it alone. -/
theorem deregistered_with_work : ∃ turns s,
    Run (Call.perform (.firstCome : Strategy Double) ⟨seconds 60, 1⟩ ⟨30, 5, 0⟩)
      ⟨0, idle .empty⟩ turns s ∧
    ∃ e, (Call.deregister "p").perform (.firstCome : Strategy Double) ⟨seconds 60, 1⟩
        ⟨30, 5, 0⟩ s = .ok e ∧
      s.state.directory.get? "p" ≠ none ∧ e.state.state.directory.get? "p" = none ∧
      e.state.state.manager.status? 1 = some .queued ∧
      ¬Manager.Cleared "p" s.state.manager e.state.state.manager := by
  have played : ((play (Call.perform (.firstCome : Strategy Double) ⟨seconds 60, 1⟩ ⟨30, 5, 0⟩)
      [.register "p" ⟨"p", "http://p", none, none, ["m"]⟩,
        .manage (.add "" [⟨"m", "p", 1, .normal⟩])]
      ⟨0, idle .empty⟩).toOption.map fun r =>
        decide (r.2.state.directory.get? "p" ≠ none ∧
          (r.2.state.directory.deregister "p" r.2.now).state.get? "p" = none ∧
          r.2.state.manager.status? 1 = some .queued ∧
          ∃ e ∈ r.2.state.manager.scheduler.queue.entries, e.key.provider = "p")) = some true := by
    decide +kernel
  obtain ⟨turns, s, run, seen⟩ := Run.exists_of_play played
  obtain ⟨before, after, queued, e, he, hp⟩ := of_decide_eq_true seen
  exact ⟨turns, s, run, _, rfl, before, after, queued, fun cleared => cleared.entries e he hp⟩

end Perform

end Fleet

end InferenceDispatch
