import InferenceDispatch.Proofs.Engine.Wiring
import InferenceDispatch.Proofs.Telemetry.Residency

namespace InferenceDispatch

namespace Engine

/-- The engine after its loops have run round after round. -/
def afterRounds (e : Engine) (rounds : List (Http.Network × Time)) : Engine :=
  rounds.foldl (fun e r => (e.runLoops r.1 r.2).state) e

theorem facades_runLoops (e : Engine) (net : Http.Network) (now : Time) :
    (e.runLoops net now).state.facades = e.facades.refreshAll net now := by
  unfold runLoops
  rw [Effect.state_andThen]
  split <;> rfl

/-- A host with a period is polled in every round, and one without a period in none. -/
theorem hosts_afterRounds (e : Engine) (rounds : List (Http.Network × Time)) :
    (e.afterRounds rounds).facades.hosts = e.facades.hosts.map fun o =>
      if 0 < o.settings.refreshInterval then o.polled rounds else o := by
  induction rounds generalizing e with
  | nil =>
    have same : (fun o : Ollama => if 0 < o.settings.refreshInterval then o.polled [] else o) = id :=
      funext fun o => ite_self o
    rw [same, List.map_id]
    rfl
  | cons r rounds ih =>
    have later := ih (e.runLoops r.1 r.2).state
    rw [facades_runLoops, Facades.refreshAll, List.map_map] at later
    refine later.trans (List.map_congr_left fun o _ => ?_)
    by_cases period : 0 < o.settings.refreshInterval
    · simp only [Function.comp_apply, if_pos period, Ollama.settings_refresh]
      rfl
    · simp only [Function.comp_apply, if_neg period]

theorem refreshInterval_pos_iff (s : OllamaSettings) : 0 < s.refreshInterval ↔ 0 < s.refreshIntervalMs :=
  Nat.mul_pos_iff_of_pos_right (by decide)

theorem pollInterval_pos (s : LoopSettings) : 0 < s.pollInterval := by
  have least : 1 ≤ max s.pollIntervalMs 1 := Nat.le_max_right ..
  exact Nat.mul_pos least (by decide)

theorem interval_pos (s : HealthSettings) : 0 < s.interval := by
  have least : 1 ≤ max s.intervalSecs 1 := Nat.le_max_right ..
  exact Nat.mul_pos least (by decide)

section Accepted

variable {c : Config}

theorem settings_hosts (fit : c.Fit) {o : Ollama} (ho : o ∈ (facadesOf c).hosts) :
    o.settings = c.ollama := by
  rw [(entered_facadesOf fit).hosts] at ho
  obtain ⟨p, _, rfl⟩ := List.mem_map.mp ho
  rfl

theorem loopPeriods_around (fit : c.Fit) : (around c (facadesOf c)).loopPeriods =
    c.loop.pollInterval :: c.health.interval ::
      (c.providers.filter fun p => p.kind = .ollama).map fun _ => c.ollama.refreshInterval := by
  have hosts : (facadesOf c).hosts.map (fun o => o.settings.refreshInterval) =
      (c.providers.filter fun p => p.kind = .ollama).map fun _ => c.ollama.refreshInterval := by
    rw [(entered_facadesOf fit).hosts, List.map_map]
    rfl
  exact congrArg (c.loop.pollInterval :: c.health.interval :: ·) hosts

theorem loopPeriods_pos_iff (fit : c.Fit) :
    (∀ period ∈ (around c (facadesOf c)).loopPeriods, 0 < period) ↔
      0 < c.ollama.refreshIntervalMs ∨ ∀ p ∈ c.providers, p.kind ≠ .ollama := by
  rw [loopPeriods_around fit, List.forall_mem_cons, List.forall_mem_cons, List.forall_mem_map,
    ← refreshInterval_pos_iff]
  constructor
  · rintro ⟨_, _, polls⟩
    refine or_iff_not_imp_right.mpr fun some_host => ?_
    simp only [not_forall, not_not] at some_host
    obtain ⟨p, hp, hk⟩ := some_host
    exact polls p (List.mem_filter.mpr ⟨hp, decide_eq_true hk⟩)
  · intro polls
    refine ⟨pollInterval_pos c.loop, interval_pos c.health, fun p hp => ?_⟩
    obtain ⟨hp, hk⟩ := List.mem_filter.mp hp
    exact polls.resolve_right fun none_polled => none_polled p hp (of_decide_eq_true hk)

theorem hosts_of_accepted (fit : c.Fit) (rounds : List (Http.Network × Time)) :
    ((around c (facadesOf c)).afterRounds rounds).facades.hosts =
      if 0 < c.ollama.refreshIntervalMs then (facadesOf c).hosts.map fun o => o.polled rounds
      else (facadesOf c).hosts := by
  rw [hosts_afterRounds]
  change (facadesOf c).hosts.map _ = _
  split
  next period =>
    refine List.map_congr_left fun o ho => if_pos ?_
    rw [settings_hosts fit ho, refreshInterval_pos_iff]
    exact period
  next no_period =>
    refine (List.map_congr_left fun o ho => if_neg ?_).trans (List.map_id _)
    rw [settings_hosts fit ho, refreshInterval_pos_iff]
    exact no_period

/-- An accepted configuration builds an engine with positive periods of scheduling and of health rounds. All
periods are positive just when that of the polls is, or there is nothing to poll. With a positive one, every
host is polled in every round; with zero, no host is polled ever. -/
theorem loops_of_accepted (accepted : c.fault? = none) : ∃ e, ofConfig c = .ok e ∧
    e.loopPeriods = c.loop.pollInterval :: c.health.interval ::
      (c.providers.filter fun p => p.kind = .ollama).map (fun _ => c.ollama.refreshInterval) ∧
    0 < c.loop.pollInterval ∧ 0 < c.health.interval ∧
    ((∀ period ∈ e.loopPeriods, 0 < period) ↔
      0 < c.ollama.refreshIntervalMs ∨ ∀ p ∈ c.providers, p.kind ≠ .ollama) ∧
    ∀ rounds, (e.afterRounds rounds).facades.hosts =
      if 0 < c.ollama.refreshIntervalMs then e.facades.hosts.map fun o => o.polled rounds
      else e.facades.hosts := by
  have fit := Config.fault?_eq_none_iff.mp accepted
  exact ⟨_, ofConfig_of_fit fit, loopPeriods_around fit, pollInterval_pos c.loop, interval_pos c.health,
    loopPeriods_pos_iff fit, hosts_of_accepted fit⟩

/-- A host that is to be polled all the time is accepted, and its loop has no period. -/
theorem accepted_without_period :
    let c : Config := { Config.standard with
      ollama := { OllamaSettings.standard with refreshIntervalMs := 0 }
      providers := [⟨"local", .ollama, some "http://127.0.0.1:11434", .empty⟩] }
    c.fault? = none ∧ ∃ e, ofConfig c = .ok e ∧ 0 ∈ e.loopPeriods := by
  intro c
  have accepted : c.fault? = none := by decide +kernel
  exact ⟨accepted, _, ofConfig_of_fit (Config.fault?_eq_none_iff.mp accepted), by decide⟩

/-- The standard settings give every loop a period. -/
theorem standard_loops_run :
    let c : Config := { Config.standard with
      providers := [⟨"local", .ollama, some "http://127.0.0.1:11434", .empty⟩] }
    c.fault? = none ∧ ∃ e, ofConfig c = .ok e ∧
      e.loopPeriods = [milliseconds 100, seconds 30, milliseconds 5000] ∧
      ∀ period ∈ e.loopPeriods, 0 < period := by
  intro c
  have accepted : c.fault? = none := by decide +kernel
  obtain ⟨e, built, periods, _, _, positive, _⟩ := loops_of_accepted accepted
  exact ⟨accepted, e, built, periods, positive.mpr (Or.inl (by decide))⟩

end Accepted

end Engine

end InferenceDispatch
