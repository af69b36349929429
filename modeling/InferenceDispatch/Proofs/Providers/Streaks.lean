import InferenceDispatch.Proofs.Providers.Happenings
import Mathlib.Data.List.DropRight

namespace InferenceDispatch

namespace Fleet

/-- The findings since the provider was last registered, oldest first. -/
def Happening.noted (fs : List Finding) : Happening → List Finding
  | registered _ => []
  | probed finding => fs ++ [finding]
  | relisted _ | left => fs

def findings (hs : List Happening) : List Finding := hs.foldl Happening.noted []

/-- The failures since the provider was last reached. -/
def streak (fs : List Finding) : List Finding := fs.rtakeWhile fun finding => !finding.reached

/-- What is noted of a provider agrees with what its probes have found. -/
structure Watched (fs : List Finding) (p : TempProvider) : Prop where
  since : p.unhealthySince = (streak fs).head?.map Finding.time
  healthy : p.isHealthy = true ↔ streak fs = []

variable {limit now : Time} {id : String} {fs : List Finding} {p : TempProvider}

theorem findings_concat (hs : List Happening) (h : Happening) :
    findings (hs ++ [h]) = h.noted (findings hs) := List.foldl_concat ..

theorem streak_missed (fs : List Finding) (now : Time) :
    streak (fs ++ [⟨now, false⟩]) = streak fs ++ [⟨now, false⟩] :=
  List.rtakeWhile_concat_pos _ _ _ rfl

theorem streak_reached (fs : List Finding) (now : Time) : streak (fs ++ [⟨now, true⟩]) = [] :=
  List.rtakeWhile_concat_neg _ _ _ (by simp)

theorem streak_eq_nil_iff :
    streak fs = [] ↔ ∀ finding, fs.getLast? = some finding → finding.reached := by
  cases fs using List.reverseRecOn with
  | nil => simp [streak]
  | append_singleton fs finding =>
    obtain ⟨time, reached⟩ := finding
    cases reached with
    | true => simp [streak_reached]
    | false => simp [streak_missed]

namespace Watched

theorem healthy_iff_since (h : Watched fs p) : p.isHealthy = true ↔ p.unhealthySince = none := by
  rw [h.healthy, h.since, Option.map_eq_none_iff, List.head?_eq_none_iff]

/-- The failure that a probe finds now is the first of the streak, or the streak goes on. -/
theorem since_missed (h : Watched fs p) (now : Time) :
    (streak (fs ++ [⟨now, false⟩])).head?.map Finding.time = some (p.unhealthySince.getD now) := by
  rw [streak_missed, h.since]
  cases streak fs <;> rfl

theorem missed (h : Watched fs p) (now : Time) : Watched (fs ++ [⟨now, false⟩]) (p.missed now) where
  since := (h.since_missed now).symm
  healthy := by simp [streak_missed, TempProvider.missed]

theorem reached (fs : List Finding) (p : TempProvider) (now : Time) :
    Watched (fs ++ [⟨now, true⟩]) (p.reached now) where
  since := by
    rw [streak_reached]
    rfl
  healthy := by simp [streak_reached, TempProvider.reached]

section Overdue

variable {f : Fleet} (hp : f.directory.get? id = some p) {health : HealthSettings}
  {found : List (String × ProbeOutcome)}
include hp

theorem overdue_iff (h : Watched fs p) :
    Overdue health now f found id ↔ (∃ reason, (id, .unreachable reason) ∈ found) ∧
      ∃ first, (streak (fs ++ [⟨now, false⟩])).head? = some first ∧
        health.removeAfter < elapsed first.time now := by
  obtain ⟨first, hfirst, since⟩ := Option.map_eq_some_iff.mp (h.since_missed now)
  constructor
  · rintro ⟨reason, q, missed, hq, late⟩
    obtain rfl := Option.some.inj (hp.symm.trans hq)
    exact ⟨⟨reason, missed⟩, first, hfirst, since ▸ late⟩
  · rintro ⟨⟨reason, missed⟩, o, ho, late⟩
    obtain rfl := Option.some.inj (hfirst.symm.trans ho)
    exact ⟨reason, p, missed, hp, since ▸ late⟩

theorem not_overdue (h : Watched fs p) (healthy : p.isHealthy = true) :
    ¬Overdue health now f found id := by
  rintro ⟨_, q, _, hq, late⟩
  obtain rfl := Option.some.inj (hp.symm.trans hq)
  rw [h.healthy_iff_since.mp healthy] at late
  simp [elapsed] at late

end Overdue

end Watched

theorem watched_befall {p? : Option TempProvider} (watched : ∀ p, p? = some p → Watched fs p)
    (h : Happening) {p' : TempProvider} (hp' : (h.befall limit p?).1 = some p') :
    Watched (h.noted fs) p' := by
  cases h with
  | registered p =>
    cases hp'
    exact ⟨rfl, iff_of_true rfl rfl⟩
  | relisted models =>
    obtain ⟨p, hp, rfl⟩ := Option.map_eq_some_iff.mp hp'
    exact ⟨(watched p hp).since, (watched p hp).healthy⟩
  | left => cases p? <;> cases hp'
  | probed finding =>
    obtain ⟨time, reached⟩ := finding
    cases p? with
    | none => simp [befall_probed_none] at hp'
    | some p =>
      cases reached with
      | true =>
        cases hp'
        exact .reached fs p time
      | false =>
        simp only [Happening.befall] at hp'
        split at hp'
        next => cases hp'
        next =>
          cases hp'
          exact (watched p rfl).missed time

theorem watched_of_befallAll (hs : List Happening) (hp : (befallAll limit none hs).1 = some p) :
    Watched (findings hs) p := by
  induction hs using List.reverseRecOn generalizing p with
  | nil => cases hp
  | append_singleton hs h ih =>
    rw [befallAll_concat] at hp
    rw [findings_concat]
    exact watched_befall (fun _ => ih) h hp

section Rounds

variable {α : Type} [OfScientific α] [Add α] [Sub α] [Mul α] [LE α] [LT α]
  [DecidableLE α] [DecidableLT α] {strategy : Strategy α} {settings : ManagerSettings}
  {health : HealthSettings} {s : Clocked Fleet} {turns : List (Turn (Clocked Fleet) Call Answer)}

theorem watched_of_run {start : Time} {catalog : Catalog Double}
    (run : Run (Call.perform strategy settings health) ⟨start, idle catalog⟩ turns s)
    (hp : s.state.directory.get? id = some p) : Watched (findings (happenings id turns)) p := by
  have befallen := congrArg Prod.fst (befallAll_happenings run id)
  exact watched_of_befallAll _ (befallen.symm.trans hp)

/-- Wherever a run has led, what is noted of a provider is what its probes have found, and a health round
takes it out just if it is missed and the streak of failures, of which this is the first or the latest,
began longer ago than the limit. -/
theorem removal_follows_streak {start : Time} {catalog : Catalog Double}
    (run : Run (Call.perform strategy settings health) ⟨start, idle catalog⟩ turns s)
    (hp : s.state.directory.get? id = some p) :
    let fs := findings (happenings id turns)
    (p.isHealthy = true ↔ p.unhealthySince = none) ∧
      (p.isHealthy = true ↔ ∀ finding, fs.getLast? = some finding → finding.reached) ∧
      p.unhealthySince = (streak fs).head?.map Finding.time ∧
      (∀ probe : TempProvider → ProbeOutcome, (Call.healthRound
        (s.state.directory.list.map fun p => (p.id, probe p))).ProbesOnce) ∧
      ∀ (now : Time) (found : List (String × ProbeOutcome)), (Call.healthRound found).ProbesOnce →
        let round := s.state.noteOutcomes health now found
        let missed := ∃ reason, (id, .unreachable reason) ∈ found
        (id ∈ round.answer.removed ↔ missed ∧ ∃ first,
          (streak (fs ++ [⟨now, false⟩])).head? = some first ∧
          health.removeAfter < elapsed first.time now) ∧
        (round.state.directory.get? id = none ↔ id ∈ round.answer.removed) ∧
        (p.isHealthy = true → id ∉ round.answer.removed) ∧
        ∀ endpoint status, (id, .reachable endpoint status) ∈ found →
          round.state.directory.get? id = some (p.reached now) := by
  obtain ⟨sound, keyed⟩ := kept_of_run run (kept_idle catalog)
  have watched := watched_of_run run hp
  refine ⟨watched.healthy_iff_since, watched.healthy.trans streak_eq_nil_iff, watched.since,
    probesOnce_listed keyed, fun now found once => ?_⟩
  obtain ⟨gone, failed, noted⟩ := noted_outcomes sound health now found
  have removed : (s.state.noteOutcomes health now found).answer.removed = gone :=
    congrArg HealthReport.removed noted.report
  have left := noted.dropped.directory
  simp only [removed]
  refine ⟨(noted.removed once id).trans (watched.overdue_iff hp), ⟨?_, left.get?_eq_none⟩, ?_, ?_⟩
  · exact left.left (by simp [hp])
  · intro healthy hid
    exact watched.not_overdue hp healthy ((noted.removed once id).mp hid)
  · intro endpoint status ho
    have befallen := befallAll_noteOutcomes id s.state health now found
    rw [happenings_of_mem once ho, befallAll_single, hp] at befallen
    exact congrArg Prod.fst befallen

/-- A provider is missed at 0 and 10 s, reached at 15 s and missed again at 20 s. With a limit of 10 s it
stays if it is missed at 30 s, and goes if it is missed at 31 s. -/
theorem recovery_restarts_streak : ∃ turns s,
    Run (Call.perform (.firstCome : Strategy Double) ⟨seconds 60, 1⟩ ⟨30, 5, 10⟩)
      ⟨0, idle .empty⟩ turns s ∧
    streak (findings (happenings "p" turns)) = [⟨seconds 20, false⟩] ∧
    (∃ p, s.state.directory.get? "p" = some p ∧ p.unhealthySince = some (seconds 20)) ∧
    "p" ∉ (s.state.noteOutcomes ⟨30, 5, 10⟩ (seconds 30) [("p", .unreachable "")]).answer.removed ∧
    "p" ∈ (s.state.noteOutcomes ⟨30, 5, 10⟩ (seconds 31) [("p", .unreachable "")]).answer.removed := by
  have played : ((play (Call.perform (.firstCome : Strategy Double) ⟨seconds 60, 1⟩ ⟨30, 5, 10⟩)
      [.register "p" ⟨"p", "http://p", none, none, ["m"]⟩,
        .healthRound [("p", .unreachable "")], .manage (.advance (seconds 10)),
        .healthRound [("p", .unreachable "")], .manage (.advance (seconds 5)),
        .healthRound [("p", .reachable "/v1/models" 200)], .manage (.advance (seconds 5)),
        .healthRound [("p", .unreachable "")]]
      ⟨0, idle .empty⟩).toOption.map fun r =>
        decide (streak (findings (happenings "p" r.1)) = [⟨seconds 20, false⟩] ∧
          (r.2.state.directory.get? "p").isSome)) = some true := by
    decide +kernel
  obtain ⟨turns, s, run, seen⟩ := Run.exists_of_play played
  obtain ⟨late, present⟩ := of_decide_eq_true seen
  obtain ⟨p, hp⟩ := Option.isSome_iff_exists.mp present
  obtain ⟨_, _, since, _, rounds⟩ := removal_follows_streak run hp
  have judged := fun now => (rounds now [("p", .unreachable "")] (List.nodup_singleton _)).1
  simp only [streak_missed, late] at since judged
  refine ⟨turns, s, run, late, ⟨p, hp, since⟩, ?_, ?_⟩
  · rw [judged]
    rintro ⟨_, _, first, long⟩
    cases first
    exact absurd long (by decide)
  · rw [judged]
    exact ⟨⟨"", List.mem_singleton_self _⟩, _, rfl, by decide⟩

end Rounds

end Fleet

end InferenceDispatch
