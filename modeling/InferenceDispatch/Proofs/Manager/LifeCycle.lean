import InferenceDispatch.Number.Double
import InferenceDispatch.Proofs.Manager.History

namespace InferenceDispatch

namespace Manager

def issuedTickets (turns : List (Turn (Clocked Manager) Call Answer)) : List Ticket :=
  turns.flatMap fun turn => turn.answer.issued

def handedTickets (turns : List (Turn (Clocked Manager) Call Answer)) : List Ticket :=
  turns.flatMap fun turn => turn.answer.handed

section Step

variable {m m' : Manager} {c : Call} {answer : Answer} {t : Ticket}

theorem Answer.pairwise_issued (answer : Answer) : answer.issued.Pairwise (· < ·) := by
  unfold issued
  split
  next => exact List.pairwise_singleton _ _
  next => exact List.Pairwise.nil

theorem Answer.nodup_handed (answer : Answer) : answer.handed.Nodup := by
  unfold handed
  split
  next => exact List.nodup_singleton _
  next => exact List.nodup_nil

theorem Step.handed (step : Step m c answer m') (ht : t ∈ answer.handed) : ∃ model? r,
    answer = .claimed (some (t, r)) ∧ m.standing t = (some (.scheduled, model?), some r) ∧
      m'.standing t = (some (.scheduled, model?), none) := by
  have hp := step.passage t
  generalize m.standing t = before at hp ⊢
  generalize m'.standing t = after at hp ⊢
  cases hp with
  | stays _ hnot => exact absurd ht hnot
  | claimed => exact ⟨_, _, rfl, rfl, rfl⟩
  | issued | scheduled | expired | forgotten | freed | completed | orphaned | cancelled =>
    simp [Answer.handed] at ht

theorem Step.unknown (step : Step m c answer m') (unknown : m.standing t = (none, none)) :
    t ∉ answer.issued ∧ m'.standing t = (none, none) ∨
      t ∈ answer.issued ∧ m'.standing t = (some (.queued, none), none) := by
  have hp := step.passage t
  rw [unknown] at hp
  generalize m'.standing t = after at hp ⊢
  cases hp with
  | stays none_issued => exact Or.inl ⟨none_issued, rfl⟩
  | issued => exact Or.inr ⟨List.mem_cons_self, rfl⟩

theorem Step.terminal (step : Step m c answer m') {status : Status} (hst : m.status? t = some status)
    (ended : status.isTerminal) : m'.status? t = some status ∨ m'.status? t = none := by
  have hp := step.passage t
  rw [status_standing] at hst ⊢
  generalize m.standing t = before at hp hst
  generalize m'.standing t = after at hp ⊢
  cases hp with
  | stays => exact Or.inl hst
  | issued => cases hst
  | scheduled | claimed | expired | freed | completed | orphaned =>
    cases hst
    cases ended
  | forgotten | cancelled => exact Or.inr rfl

theorem Step.result (step : Step m c answer m') {r : Result} (hr : m.results.get? t = some r) :
    m'.results.get? t = some r ∨ m'.results.get? t = none ∧
      (answer = .claimed (some (t, r)) ∨
        ∃ status, m'.status? t = some status ∧ status.isTerminal) := by
  have hp := step.passage t
  have hbefore : (m.standing t).2 = some r := hr
  rw [status_standing]
  change (m'.standing t).2 = some r ∨ (m'.standing t).2 = none ∧ _
  generalize m.standing t = before at hp hbefore
  generalize m'.standing t = after at hp ⊢
  cases hp with
  | stays => exact Or.inl hbefore
  | issued | scheduled | forgotten | orphaned | cancelled => cases hbefore
  | claimed =>
    cases hbefore
    exact Or.inr ⟨rfl, Or.inl rfl⟩
  | expired => exact Or.inr ⟨rfl, Or.inr ⟨.expired, rfl, rfl⟩⟩
  | freed => exact Or.inr ⟨rfl, Or.inr ⟨.completed, rfl, rfl⟩⟩
  | @completed outcome =>
    exact Or.inr ⟨rfl, Or.inr ⟨outcome.status, rfl, by cases outcome <;> rfl⟩⟩

/-- The result claimed without naming a ticket is that of the smallest one. -/
theorem getResult_smallest (m : Manager) :
    m.getResult.2 = none ∧ (∀ t, m.results.get? t = none) ∨ ∃ t r, m.getResult.2 = some (t, r) ∧
      m.results.get? t = some r ∧ ∀ t' r', m.results.get? t' = some r' → t ≤ t' := by
  unfold getResult
  split
  next r results hpop =>
    obtain ⟨hr, _, least⟩ := SortedMap.popFirst?_eq_some hpop
    refine Or.inr ⟨r.1, r.2, rfl, hr, fun t' r' hr' => ?_⟩
    have hm : t' ∈ m.results.keys := List.mem_map_of_mem (SortedMap.get?_eq_some_iff.mp hr')
    rcases least t' hm with h | h
    · exact Nat.le_of_eq h.symm
    · exact Nat.le_of_lt h
  next hpop => exact Or.inl ⟨rfl, SortedMap.popFirst?_eq_none hpop⟩

theorem Sound.standing_unknown (h : m.Sound) (unknown : m.status? t = none) :
    m.standing t = (none, none) := by
  have no_result : m.results.get? t = none := h.accounted.result_none (by simp [unknown])
  exact Prod.ext (Option.map_eq_none_iff.mpr (Option.map_eq_none_iff.mp unknown)) no_result

/-- A ticket was issued and is no longer known. -/
structure Gone (t : Ticket) (m : Manager) : Prop where
  issued : t ≤ m.issued
  standing : m.standing t = (none, none)

theorem Sound.gone (h : m.Sound) (issued : t ≤ m.issued) (unknown : m.status? t = none) : Gone t m :=
  ⟨issued, h.standing_unknown unknown⟩

theorem Gone.step (h : Gone t m) (step : Step m c answer m') : Gone t m' := by
  obtain ⟨ht, hnone⟩ := h
  have old : t ∉ answer.issued := fun hi => Nat.not_le_of_lt (step.issued_new hi).1 ht
  have hp := step.passage t
  refine ⟨Nat.le_trans ht step.issued_le, ?_⟩
  rw [hnone] at hp
  generalize m'.standing t = after at hp ⊢
  cases hp with
  | stays => rfl
  | issued => exact absurd List.mem_cons_self old

end Step

section Run

variable {α : Type} [OfScientific α] [Add α] [Sub α] [Mul α] [LE α] [LT α]
  [DecidableLE α] [DecidableLT α] {strategy : Strategy α} {settings : ManagerSettings}
  {start : Time} {s s₀ : Clocked Manager} {turns : List (Turn (Clocked Manager) Call Answer)}

/-- What a run from the empty manager leaves behind. -/
structure Past (turns : List (Turn (Clocked Manager) Call Answer)) (m : Manager) : Prop where
  issued : (issuedTickets turns).Pairwise (· < ·)
  bounded : ∀ t ∈ issuedTickets turns, t ≤ m.issued
  handed : (handedTickets turns).Nodup
  spent : ∀ t ∈ handedTickets turns, Left t m ∧ (m.standing t).2 = none

theorem past (run : Run (Call.perform strategy settings) ⟨start, empty⟩ turns s) :
    Past turns s.state := by
  induction run with
  | start => exact ⟨.nil, by simp [issuedTickets], .nil, by simp [handedTickets]⟩
  | @next turns s c e run hc ih =>
    obtain ⟨issued, bounded, handed, spent⟩ := ih
    have sound := sound_of_run run sound_empty
    have step := step_perform sound hc
    have allIssued : issuedTickets (turns ++ [⟨s, c, e⟩]) = issuedTickets turns ++ e.answer.issued := by
      simp [issuedTickets, Turn.answer]
    have allHanded : handedTickets (turns ++ [⟨s, c, e⟩]) = handedTickets turns ++ e.answer.handed := by
      simp [handedTickets, Turn.answer]
    refine ⟨?_, ?_, ?_, ?_⟩
    · rw [allIssued]
      refine List.pairwise_append.mpr ⟨issued, e.answer.pairwise_issued, fun a ha b hb => ?_⟩
      exact Nat.lt_of_le_of_lt (bounded a ha) (step.issued_new hb).1
    · intro t ht
      rw [allIssued] at ht
      rcases List.mem_append.mp ht with ht | ht
      · exact Nat.le_trans (bounded t ht) step.issued_le
      · exact (step.issued_new ht).2
    · rw [allHanded]
      refine List.nodup_append.mpr ⟨handed, e.answer.nodup_handed, ?_⟩
      rintro t ht _ hnow rfl
      obtain ⟨_, r, _, before, _⟩ := step.handed hnow
      have no_result := (spent t ht).2
      rw [before] at no_result
      cases no_result
    · intro t ht
      rw [allHanded] at ht
      rcases List.mem_append.mp ht with ht | ht
      · obtain ⟨left, no_result⟩ := spent t ht
        exact ⟨(left.step step).1, (left.step step).2 no_result⟩
      · obtain ⟨_, r, _, before, after⟩ := step.handed ht
        obtain ⟨st, hst, _⟩ := Option.map_eq_some_iff.mp (congrArg Prod.fst before)
        refine ⟨⟨Nat.le_trans (sound.known t st hst) step.issued_le, ?_⟩, ?_⟩
        · rw [after]
          simp
        · rw [after]

theorem Gone.run {t : Ticket} (gone : Gone t s₀.state) (h : s₀.state.Sound)
    (run : Run (Call.perform strategy settings) s₀ turns s) : Gone t s.state :=
  (run.keeps (I := fun s => s.state.Sound ∧ Gone t s.state)
    (fun _ _ _ h hc => ⟨(step_perform h.1 hc).sound, h.2.step (step_perform h.1 hc)⟩) ⟨h, gone⟩).2

theorem never_returns {earlier later : List (Turn (Clocked Manager) Call Answer)}
    {turn : Turn (Clocked Manager) Call Answer}
    (run : Run (Call.perform strategy settings) ⟨start, empty⟩ (earlier ++ turn :: later) s)
    {t : Ticket} (known : turn.before.state.status? t ≠ none)
    (forgotten : turn.after.state.status? t = none) : s.state.status? t = none := by
  obtain ⟨first, hc, last⟩ := run.cut_at
  have sound := sound_of_run first sound_empty
  have step := step_perform sound hc
  obtain ⟨st, hst⟩ := Option.ne_none_iff_exists'.mp (fun h => known (Option.map_eq_none_iff.mpr h))
  have gone := step.sound.gone (Nat.le_trans (sound.known t st hst) step.issued_le) forgotten
  rw [status_standing, (gone.run step.sound last).standing]
  rfl

/-- Over any run, tickets are issued in ascending order, and in every turn every ticket passes on as
it may: an ended ticket keeps its status until it is forgotten, and what is forgotten never comes back.
Results are handed out once in all, for scheduled tickets only; they go unclaimed only as their ticket
ends. The result claimed without naming a ticket is that of the smallest one. -/
theorem ticket_life_cycle (run : Run (Call.perform strategy settings) ⟨start, empty⟩ turns s) :
    (issuedTickets turns).Pairwise (· < ·) ∧
    (∀ turn ∈ turns, ∀ t, Passage t turn.call turn.answer (turn.before.state.standing t)
      (turn.after.state.standing t)) ∧
    (∀ turn ∈ turns, ∀ t status, turn.before.state.status? t = some status → status.isTerminal →
      turn.after.state.status? t = some status ∨ turn.after.state.status? t = none) ∧
    (∀ earlier turn later, turns = earlier ++ turn :: later → ∀ t,
      turn.before.state.status? t ≠ none → turn.after.state.status? t = none →
      s.state.status? t = none) ∧
    (handedTickets turns).Nodup ∧
    (∀ turn ∈ turns, ∀ t ∈ turn.answer.handed, turn.before.state.status? t = some .scheduled ∧
      turn.after.state.status? t = some .scheduled) ∧
    (∀ turn ∈ turns, ∀ t r, turn.before.state.results.get? t = some r →
      turn.after.state.results.get? t = some r ∨ turn.after.state.results.get? t = none ∧
        (turn.answer = .claimed (some (t, r)) ∨
          ∃ status, turn.after.state.status? t = some status ∧ status.isTerminal)) ∧
    (∀ turn ∈ turns, turn.call = .getResult →
      turn.answer = .claimed none ∧ (∀ t, turn.before.state.results.get? t = none) ∨
      ∃ t r, turn.answer = .claimed (some (t, r)) ∧ turn.before.state.results.get? t = some r ∧
        ∀ t' r', turn.before.state.results.get? t' = some r' → t ≤ t') ∧
    ∀ c : Call, c.MovesElsewhere s.state.scheduler.queue →
      ∃ e, c.perform strategy settings s = .ok e := by
  have step : ∀ turn ∈ turns, Step turn.before.state turn.call turn.answer turn.after.state :=
    fun _ ht => step_of_mem run sound_empty ht
  obtain ⟨issued, _, handed, _⟩ := past run
  refine ⟨issued, fun turn ht => (step turn ht).passage,
    fun turn ht t status => (step turn ht).terminal, ?_, handed, ?_,
    fun turn ht t r => (step turn ht).result, ?_,
    fun _ => perform_returns (sound_of_run run sound_empty)⟩
  · rintro earlier turn later rfl t known forgotten
    exact never_returns run known forgotten
  · intro turn ht t hm
    obtain ⟨_, _, _, before, after⟩ := (step turn ht).handed hm
    rw [status_standing, status_standing, before, after]
    exact ⟨rfl, rfl⟩
  · intro turn ht hcall
    obtain ⟨_, hc⟩ := call_of_mem run sound_empty ht
    rw [hcall] at hc
    have answered : turn.answer = .claimed turn.before.state.getResult.2 := by
      rw [Turn.answer, ← Except.ok.inj hc]
      rfl
    rcases getResult_smallest turn.before.state with ⟨hnone, empty⟩ | ⟨t, r, hsome, least⟩
    · exact Or.inl ⟨by rw [answered, hnone], empty⟩
    · exact Or.inr ⟨t, r, by rw [answered, hsome], least⟩

/-- A result that is asked for three times is handed out once. -/
theorem asked_for_three_times : ∃ turns s,
    Run (Call.perform (.firstCome : Strategy Double) ⟨seconds 60, 1⟩) ⟨0, empty⟩ turns s ∧
      issuedTickets turns = [1, 2] ∧ handedTickets turns = [1] ∧
      (issuedTickets turns).Pairwise (· < ·) ∧ (handedTickets turns).Nodup := by
  let request : Call := .add "" [⟨"m", "p", 1, .normal⟩]
  have played : ((play (Call.perform (.firstCome : Strategy Double) ⟨seconds 60, 1⟩)
      [request, request, .tick .unguarded, .look 1, .takeResult 1, .getResult, .complete 1 .success]
      ⟨0, empty⟩).toOption.map fun r => (issuedTickets r.1, handedTickets r.1)) =
      some ([1, 2], [1]) := by decide +kernel
  obtain ⟨turns, s, run, hview⟩ := Run.exists_of_play played
  obtain ⟨issued, handed⟩ := Prod.mk.inj hview
  obtain ⟨ascending, _, _, _, once, _⟩ := ticket_life_cycle run
  exact ⟨turns, s, run, issued, handed, ascending, once⟩

end Run

end Manager

end InferenceDispatch
