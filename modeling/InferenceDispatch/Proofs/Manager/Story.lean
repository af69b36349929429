import InferenceDispatch.Proofs.Manager.LifeCycle
import InferenceDispatch.Proofs.Manager.Reports

namespace InferenceDispatch

namespace Manager

/-- What was reported of a ticket that was issued, by how it stands. A ticket that is not known any
more stands in no way, and its result is there only until it is claimed. -/
inductive Story (t : Ticket) : Standing → List Event → Prop
  | queued {model? : Option String} {candidates : List String} {at_ : Time} :
      Story t (some (.queued, model?), none) [.enqueue t candidates at_]
  | cancelled {candidates : List String} {at_ : Time} :
      Story t (none, none) [.enqueue t candidates at_]
  | scheduled {candidates : List String} {at_ : Time} {r : Result} {r? : Option Result} :
      (∀ x ∈ r?, x = r) → Story t (some (.scheduled, some r.key.model), r?)
        [.enqueue t candidates at_, report t r]
  | ended {candidates : List String} {at_ finish : Time} {r : Result} {status : Status}
      {error : Option String} {known : Option (Status × Option String)} : status.isTerminal →
      (∀ x ∈ known, x = (status, some r.key.model)) → Story t (known, none)
        [.enqueue t candidates at_, report t r, .complete t r.key.model status error finish]
  | failed {candidates : List String} {at_ finish : Time} {model : String} {error : Option String}
      {known : Option (Status × Option String)} : (∀ x ∈ known, x.1 = .failed) →
      Story t (known, none)
        [.enqueue t candidates at_, .complete t model .failed error finish]

theorem Story.step {t : Ticket} {before after : Standing} {es new : List Event}
    (h : Story t before es) (told : Reports t before after new)
    (old : before = (none, none) → after = (none, none)) :
    Story t after (es ++ new) := by
  cases told with
  | stays =>
    rw [List.append_nil]
    exact h
  | enqueued => cases old rfl
  | scheduled =>
    cases h with
    | queued => exact .scheduled (by simp)
    | ended terminal known =>
      cases known _ rfl
      cases terminal
    | failed known => cases known _ rfl
  | claimed =>
    rw [List.append_nil]
    cases h with
    | scheduled => exact .scheduled (by simp)
  | ended terminal =>
    cases h with
    | scheduled => exact .ended terminal (by simp)
    | ended ended known =>
      cases known _ rfl
      cases ended
    | failed known => cases known _ rfl
  | failed =>
    cases h with
    | queued => exact .failed (by simp)
    | ended terminal known =>
      cases known _ rfl
      cases terminal
    | failed known => cases known _ rfl
  | gone running =>
    rw [List.append_nil]
    cases h with
    | queued => exact .cancelled
    | scheduled => exact absurd rfl running
    | ended terminal => exact .ended terminal (by simp)
    | failed => exact .failed (by simp)

section Run

variable {α : Type} [OfScientific α] [Add α] [Sub α] [Mul α] [LE α] [LT α]
  [DecidableLE α] [DecidableLT α] {strategy : Strategy α} {settings : ManagerSettings}
  {start : Time} {s s₀ : Clocked Manager} {turns : List (Turn (Clocked Manager) Call Answer)}
  {t : Ticket}

/-- A run from the empty manager tells the story of the tickets it issued, and nothing of others. -/
theorem story (run : Run (Call.perform strategy settings) ⟨start, empty⟩ turns s) (t : Ticket) :
    t ∈ issuedTickets turns ∧ Story t (s.state.standing t) (eventsOf t (reported turns)) ∨
      t ∉ issuedTickets turns ∧ s.state.standing t = (none, none) ∧
        eventsOf t (reported turns) = [] := by
  induction run with
  | start => exact Or.inr ⟨by simp [issuedTickets], by simp [standing, empty], rfl⟩
  | @next turns s c e run hc ih =>
    have sound := sound_of_run run sound_empty
    have step := step_perform sound hc
    have told := reports_perform sound hc t
    have issued : issuedTickets (turns ++ [⟨s, c, e⟩]) =
        issuedTickets turns ++ e.answer.issued := by
      simp [issuedTickets, Turn.answer]
    have events : eventsOf t (reported (turns ++ [⟨s, c, e⟩])) =
        eventsOf t (reported turns) ++ eventsOf t e.events := by
      rw [← eventsOf_append]
      simp [reported, Turn.events]
    rw [issued, events, List.mem_append]
    rcases ih with ⟨known, story⟩ | ⟨unknown, before, silent⟩
    · refine Or.inl ⟨Or.inl known, story.step told fun before => ?_⟩
      have old : t ∉ e.answer.issued := fun hi =>
        Nat.not_le_of_lt (step.issued_new hi).1 ((past run).bounded t known)
      exact ((step.unknown before).resolve_right fun new => old new.1).2
    · rw [silent, List.nil_append]
      rcases step.unknown before with ⟨old, after⟩ | ⟨new, after⟩
      · rw [before, after] at told
        refine Or.inr ⟨not_or.mpr ⟨unknown, old⟩, after, ?_⟩
        generalize eventsOf t e.events = es at told ⊢
        cases told
        rfl
      · rw [before, after] at told
        refine Or.inl ⟨Or.inr new, ?_⟩
        rw [after]
        generalize eventsOf t e.events = es at told ⊢
        cases told
        exact .queued

theorem reported_prefix {earlier later : List (Turn (Clocked Manager) Call Answer)} {e : Event}
    (he : e ∈ reported earlier) : e ∈ reported (earlier ++ later) := by
  rw [reported, List.flatMap_append]
  exact List.mem_append_left _ he

theorem story_of_mem (run : Run (Call.perform strategy settings) ⟨start, empty⟩ turns s)
    {turn : Turn (Clocked Manager) Call Answer} (hturn : turn ∈ turns)
    (known : turn.after.state.standing t ≠ (none, none)) :
    ∃ es, Story t (turn.after.state.standing t) es ∧ ∀ e ∈ es, e ∈ reported turns := by
  obtain ⟨earlier, later, rfl⟩ := List.append_of_mem hturn
  obtain ⟨first, hc, _⟩ := run.cut_at
  rcases story (first.next hc) t with ⟨_, story⟩ | ⟨_, unknown, _⟩
  · refine ⟨_, story, fun e he => ?_⟩
    rw [List.append_cons]
    exact reported_prefix (mem_eventsOf.mp he).1
  · exact absurd unknown known

theorem reports_of_mem (run : Run (Call.perform strategy settings) ⟨start, empty⟩ turns s)
    {e : Event} (he : e ∈ reported turns) (ht : e.ticket? = some t) : ∃ turn ∈ turns,
      Step turn.before.state turn.call turn.answer turn.after.state ∧ ∃ es, e ∈ es ∧
        Reports t (turn.before.state.standing t) (turn.after.state.standing t) es := by
  obtain ⟨turn, hturn, he⟩ := List.mem_flatMap.mp he
  obtain ⟨sound, hc⟩ := call_of_mem run sound_empty hturn
  have told := reports_perform sound hc t
  exact ⟨turn, hturn, step_perform sound hc, _, mem_eventsOf.mpr ⟨he, ht⟩, told⟩

theorem ticket_of_reported (run : Run (Call.perform strategy settings) ⟨start, empty⟩ turns s)
    {e : Event} (he : e ∈ reported turns) : ∃ t, e.ticket? = some t := by
  obtain ⟨turn, hturn, he⟩ := List.mem_flatMap.mp he
  obtain ⟨sound, hc⟩ := call_of_mem run sound_empty hturn
  exact ticket_of_event sound hc he

theorem mem_complete_iff (run : Run (Call.perform strategy settings) ⟨start, empty⟩ turns s)
    {status : Status} :
    (∃ model error finish, .complete t model status error finish ∈ reported turns) ↔
      status.isTerminal ∧ ∃ turn ∈ turns, turn.after.state.status? t = some status := by
  constructor
  · rintro ⟨model, error, finish, he⟩
    obtain ⟨turn, hturn, _, es, hes, told⟩ := reports_of_mem run he rfl
    have reached : status.isTerminal ∧ turn.after.state.status? t = some status := by
      rw [status_standing]
      generalize turn.before.state.standing t = before at told
      generalize turn.after.state.standing t = after at told ⊢
      cases told with
      | stays | claimed | gone => cases hes
      | enqueued | scheduled => simp [report] at hes
      | ended terminal =>
        cases List.mem_singleton.mp hes
        exact ⟨terminal, rfl⟩
      | failed =>
        cases List.mem_singleton.mp hes
        exact ⟨rfl, rfl⟩
    exact ⟨reached.1, turn, hturn, reached.2⟩
  · rintro ⟨terminal, turn, hturn, hstatus⟩
    rw [status_standing] at hstatus
    have known : turn.after.state.standing t ≠ (none, none) := by
      intro unknown
      rw [unknown] at hstatus
      cases hstatus
    obtain ⟨es, story, hes⟩ := story_of_mem run hturn known
    generalize turn.after.state.standing t = after at story hstatus
    cases story with
    | queued | scheduled =>
      cases hstatus
      cases terminal
    | cancelled => cases hstatus
    | ended _ known =>
      obtain ⟨x, hx, rfl⟩ := Option.map_eq_some_iff.mp hstatus
      rw [known x hx]
      exact ⟨_, _, _, hes _ (List.mem_cons_of_mem _ (List.mem_cons_of_mem _ List.mem_cons_self))⟩
    | failed known =>
      obtain ⟨x, hx, rfl⟩ := Option.map_eq_some_iff.mp hstatus
      rw [known x hx]
      exact ⟨_, _, _, hes _ (List.mem_cons_of_mem _ List.mem_cons_self)⟩

theorem report_of_waiting (run : Run (Call.perform strategy settings) ⟨start, empty⟩ turns s)
    {r : Result} (hr : s.state.results.get? t = some r) : report t r ∈ reported turns := by
  have waits : (s.state.standing t).2 = some r := hr
  rcases story run t with ⟨_, story⟩ | ⟨_, unknown, _⟩
  · have told : report t r ∈ eventsOf t (reported turns) := by
      generalize s.state.standing t = standing at story waits
      generalize eventsOf t (reported turns) = es at story ⊢
      cases story with
      | queued | cancelled | ended | failed => cases waits
      | scheduled laid =>
        obtain rfl := laid r waits
        exact List.mem_cons_of_mem _ List.mem_cons_self
    exact (mem_eventsOf.mp told).1
  · rw [unknown] at waits
    cases waits

theorem report_mem (run : Run (Call.perform strategy settings) ⟨start, empty⟩ turns s)
    {turn : Turn (Clocked Manager) Call Answer} (hturn : turn ∈ turns) {r : Result}
    (hr : turn.after.state.results.get? t = some r) : report t r ∈ reported turns := by
  obtain ⟨earlier, later, rfl⟩ := List.append_of_mem hturn
  obtain ⟨first, hc, _⟩ := run.cut_at
  rw [List.append_cons]
  exact reported_prefix (report_of_waiting (first.next hc) hr)

/-- A result that is handed out is the one that was reported. -/
theorem report_of_handed (run : Run (Call.perform strategy settings) ⟨start, empty⟩ turns s)
    {turn : Turn (Clocked Manager) Call Answer} (hturn : turn ∈ turns) {r : Result}
    (handed : turn.answer = .claimed (some (t, r))) : report t r ∈ reported turns := by
  obtain ⟨_, r', answered, before, _⟩ := (step_of_mem run sound_empty hturn).handed
    (Answer.mem_handed.mpr ⟨r, handed⟩)
  obtain rfl : r = r' := by simpa [handed] using answered
  obtain ⟨earlier, later, rfl⟩ := List.append_of_mem hturn
  obtain ⟨first, _, _⟩ := run.cut_at
  exact reported_prefix (report_of_waiting first (congrArg Prod.snd before))

theorem Step.laidOut {m m' : Manager} {c : Call} {answer : Answer} (step : Step m c answer m')
    {r : Result} (queued : m.status? t = some .queued) (hr : m'.results.get? t = some r) :
    ∃ gate, c = .tick gate := by
  obtain ⟨st, hst, scheduled⟩ := step.sound.scheduled_of_result hr
  have passage := step.passage t
  rw [status_standing] at queued
  have waits : (m'.standing t).2 = some r := hr
  have given : (m'.standing t).1 = some (.scheduled, st.model) := by rw [standing_eq hst, scheduled]
  generalize m.standing t = before at passage queued
  generalize m'.standing t = after at passage waits given
  cases passage with
  | stays =>
    rw [given] at queued
    cases queued
  | scheduled => exact ⟨_, rfl⟩
  | issued | claimed | expired | forgotten | freed | completed | orphaned | cancelled => cases waits

theorem mem_scheduled_iff (run : Run (Call.perform strategy settings) ⟨start, empty⟩ turns s)
    {model provider : String} :
    (∃ tier waited at_, .scheduled t model provider tier waited at_ ∈ reported turns) ↔
      ∃ turn ∈ turns, (∃ gate, turn.call = .tick gate) ∧
        turn.before.state.status? t = some .queued ∧
        ∃ r, turn.after.state.results.get? t = some r ∧ r.key = ⟨model, provider⟩ := by
  constructor
  · rintro ⟨tier, waited, at_, he⟩
    obtain ⟨turn, hturn, step, es, hes, told⟩ := reports_of_mem run he rfl
    obtain ⟨r, queued, hr, hkey⟩ : ∃ r, turn.before.state.status? t = some .queued ∧
        turn.after.state.results.get? t = some r ∧ r.key = ⟨model, provider⟩ := by
      rw [status_standing]
      change ∃ r, _ ∧ (turn.after.state.standing t).2 = some r ∧ _
      generalize turn.before.state.standing t = before at told ⊢
      generalize turn.after.state.standing t = after at told ⊢
      cases told with
      | stays | claimed | gone => cases hes
      | enqueued | ended | failed => simp at hes
      | @scheduled model? r =>
        cases List.mem_singleton.mp hes
        exact ⟨r, rfl, rfl, rfl⟩
    exact ⟨turn, hturn, step.laidOut queued hr, queued, r, hr, hkey⟩
  · rintro ⟨turn, hturn, _, _, r, hr, hkey⟩
    have told := report_mem run hturn hr
    rw [report, hkey] at told
    exact ⟨_, _, _, told⟩

/-- The log of a run from the empty manager tells the history of every ticket, and of no other: what
it says of a ticket that was issued is that it was let in, and then, as far as it came, that it was
scheduled and ended, on one model, or that it failed. It tells of an end where a ticket has come to
that end, and of being scheduled where a pass has laid out a result, for the model and the provider
of that result. -/
theorem log_tells_history (run : Run (Call.perform strategy settings) ⟨start, empty⟩ turns s) :
    (∀ e ∈ reported turns, ∃ t ∈ issuedTickets turns, e.ticket? = some t) ∧
    (∀ t ∈ issuedTickets turns, Story t (s.state.standing t) (eventsOf t (reported turns))) ∧
    (∀ t status, (∃ model error finish, .complete t model status error finish ∈ reported turns) ↔
      status.isTerminal ∧ ∃ turn ∈ turns, turn.after.state.status? t = some status) ∧
    (∀ t model provider,
      (∃ tier waited at_, .scheduled t model provider tier waited at_ ∈ reported turns) ↔
      ∃ turn ∈ turns, (∃ gate, turn.call = .tick gate) ∧
        turn.before.state.status? t = some .queued ∧
        ∃ r, turn.after.state.results.get? t = some r ∧ r.key = ⟨model, provider⟩) ∧
    ∀ turn ∈ turns, ∀ t r, turn.after.state.results.get? t = some r ∨
      turn.answer = .claimed (some (t, r)) → report t r ∈ reported turns := by
  refine ⟨fun e he => ?_, fun t ht => ?_, fun t status => mem_complete_iff run,
    fun t model provider => mem_scheduled_iff run, fun turn hturn t r hr => ?_⟩
  · obtain ⟨t, ht⟩ := ticket_of_reported run he
    rcases story run t with ⟨issued, _⟩ | ⟨_, _, silent⟩
    · exact ⟨t, issued, ht⟩
    · have told := mem_eventsOf.mpr ⟨he, ht⟩
      rw [silent] at told
      cases told
  · rcases story run t with ⟨_, story⟩ | ⟨unknown, _⟩
    · exact story
    · exact absurd ht unknown
  · rcases hr with waits | handed
    · exact report_mem run hturn waits
    · exact report_of_handed run hturn handed

/-- One request is scheduled and completed, one fails with its provider, and one is cancelled: of
the last the log says that it was let in, and nothing more. -/
theorem log_of_completed_failed_cancelled : ∃ turns s,
    Run (Call.perform (.firstCome : Strategy Double) ⟨seconds 60, 1⟩) ⟨0, empty⟩ turns s ∧
      reported turns = [.enqueue 1 ["m"] 0, .enqueue 2 ["n"] 0, .enqueue 3 ["m"] 0,
        .scheduled 1 "m" "p" .normal 0 0, .complete 2 "n" .failed (some "provider removed") 0,
        .complete 1 "m" .completed none 0] ∧
      (∀ t ∈ issuedTickets turns, Story t (s.state.standing t) (eventsOf t (reported turns))) ∧
      ∃ turn ∈ turns, turn.after.state.status? 2 = some .failed := by
  have played : ((play (Call.perform (.firstCome : Strategy Double) ⟨seconds 60, 1⟩)
      [.add "" [⟨"m", "p", 1, .normal⟩], .add "" [⟨"n", "q", 1, .normal⟩],
        .add "" [⟨"m", "p", 1, .normal⟩], .tick .unguarded, .withdraw "q", .cancel 3,
        .complete 1 .success]
      ⟨0, empty⟩).toOption.map fun r => reported r.1) =
      some [.enqueue 1 ["m"] 0, .enqueue 2 ["n"] 0, .enqueue 3 ["m"] 0,
        .scheduled 1 "m" "p" .normal 0 0, .complete 2 "n" .failed (some "provider removed") 0,
        .complete 1 "m" .completed none 0] := by
    decide +kernel
  obtain ⟨turns, s, run, hview⟩ := Run.exists_of_play played
  obtain ⟨_, stories, ends, _⟩ := log_tells_history run
  have failed := (ends 2 .failed).mp ⟨"n", some "provider removed", 0, by simp [hview]⟩
  exact ⟨turns, s, run, hview, stories, failed.2⟩

end Run

end Manager

end InferenceDispatch
