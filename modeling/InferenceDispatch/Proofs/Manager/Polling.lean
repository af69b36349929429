import InferenceDispatch.Number.Double
import InferenceDispatch.Proofs.Manager.LifeCycle

namespace InferenceDispatch

namespace Manager

/-- Nothing is known of a ticket, or that it has not ended. -/
def Active (r : Option TicketState) : Prop := ∀ s ∈ r, s.status.isTerminal = false

theorem active_none : Active none := fun _ h => by cases h

theorem active_some {s : TicketState} : Active (some s) ↔ s.status.isTerminal = false := by
  unfold Active
  simp only [Option.mem_some_iff, forall_eq']

/-- What may become in one call of what is known of a ticket. -/
inductive Keeping (lifetime now : Time) (c : Call) : (before after : Option TicketState) → Prop
  | active {r r' : Option TicketState} : Active r → Active r' → Keeping lifetime now c r r'
  | ended {s s' : TicketState} : s.status.isTerminal = false → s'.status.isTerminal →
      s'.finishedAt = some now → Keeping lifetime now c (some s) (some s')
  | kept {s : TicketState} : s.status.isTerminal →
      ((∃ gate, c = .tick gate) → s.isRemembered lifetime now) →
      Keeping lifetime now c (some s) (some s)
  | forgotten {s : TicketState} : s.status.isTerminal → (∃ gate, c = .tick gate) →
      s.isRemembered lifetime now = false → Keeping lifetime now c (some s) none

section Call

variable {m : Manager} {lifetime now : Time} {c : Call} {t : Ticket} {s : TicketState}

theorem Keeping.same (not_pass : ∀ gate, c ≠ .tick gate) (r : Option TicketState) :
    Keeping lifetime now c r r := by
  cases r with
  | none => exact .active active_none active_none
  | some s =>
    cases ended : s.status.isTerminal with
    | true => exact .kept ended fun ⟨gate, hc⟩ => absurd hc (not_pass gate)
    | false => exact .active (active_some.mpr ended) (active_some.mpr ended)

theorem keeping_untouched {m' : Manager} (untouched : m'.tickets = m.tickets)
    (not_pass : ∀ gate, c ≠ .tick gate) (x : Ticket) :
    Keeping lifetime now c (m.tickets.get? x) (m'.tickets.get? x) :=
  untouched ▸ .same not_pass _

theorem tickets_getResult (m : Manager) : m.getResult.1.tickets = m.tickets := by
  unfold getResult
  split <;> rfl

theorem tickets_look (m : Manager) (t : Ticket) : (m.look t).1.tickets = m.tickets := by
  unfold look takeResult
  cases m.results.get? t <;> rfl

theorem keeping_add (h : m.Sound) (settings : ManagerSettings) (payload : Payload)
    (candidates : List Candidate) (x : Ticket) :
    Keeping lifetime now (.add payload candidates) (m.tickets.get? x)
      ((m.add settings now payload candidates).state.tickets.get? x) := by
  by_cases hne : candidates = []
  · subst hne
    exact .same (by simp) _
  · obtain ⟨_, _, added⟩ := adds h settings now payload hne
    rw [added.tickets]
    split
    next hx =>
      rw [h.get?_of_lt (hx ▸ Nat.lt_succ_self m.issued)]
      exact .active active_none (active_some.mpr rfl)
    next => exact .same (by simp) _

theorem keeping_close (h : m.Sound) (hs : m.tickets.get? t = some s) (hst : s.status = .scheduled)
    {status : Status} (terminal : status.isTerminal) (not_pass : ∀ gate, c ≠ .tick gate) (x : Ticket) :
    Keeping lifetime now c (m.tickets.get? x) ((m.close t status now).1.tickets.get? x) := by
  rw [get?_close h hs hst]
  split
  next hx =>
    rw [hx, hs]
    exact .ended (by rw [hst]; rfl) terminal rfl
  next => exact .same not_pass _

theorem keeping_setFree (h : m.Sound) (model : String) (x : Ticket) :
    Keeping lifetime now (.setFree model) (m.tickets.get? x)
      ((m.setFree now model).state.tickets.get? x) := by
  unfold setFree
  split
  next => exact .same (by simp) _
  next t ht =>
    obtain ⟨s, hs, hst, _⟩ := h.accounted.mem_holders.mp (slotHolder?_mem ht)
    exact keeping_close h hs hst rfl (by simp) x

theorem keeping_complete (h : m.Sound) (t : Ticket) (outcome : CallOutcome) (x : Ticket) :
    Keeping lifetime now (.complete t outcome) (m.tickets.get? x)
      ((m.complete now t outcome).state.tickets.get? x) := by
  unfold complete
  split
  next => exact .same (by simp) _
  next hst =>
    obtain ⟨s, hs, hst⟩ := Option.map_eq_some_iff.mp hst
    have terminal : outcome.status.isTerminal = true := by cases outcome <;> rfl
    exact keeping_close h hs hst terminal (by simp) x
  next => exact .same (by simp) _

theorem keeping_withdraw (h : m.Sound) (provider : String) (x : Ticket) :
    Keeping lifetime now (.withdraw provider) (m.tickets.get? x)
      ((m.withdraw now provider).state.tickets.get? x) := by
  obtain ⟨_, _, tickets⟩ := withdraw_spec h now provider
  rw [tickets]
  split
  next hx =>
    obtain ⟨s, hs, hst⟩ := queued_of_orphan h provider hx
    rw [hs]
    exact .ended (by rw [hst]; rfl) rfl rfl
  next => exact .same (by simp) _

theorem keeping_cancel (m : Manager) (t x : Ticket) :
    Keeping lifetime now (.cancel t) (m.tickets.get? x) ((m.cancel t).1.tickets.get? x) := by
  unfold cancel
  split
  next s hs =>
    split
    next hst =>
      rw [Table.get?_erase]
      split
      next hx =>
        rw [hx, hs]
        exact .active (active_some.mpr (by rw [hst]; rfl)) active_none
      next => exact .same (by simp) _
    next => exact .same (by simp) _
  next => exact .same (by simp) _

theorem keeping_expire (h : m.Sound) (settings : ManagerSettings) (now : Time) (gate : Gate) (x : Ticket) :
    Keeping settings.resultLifetime now (.tick gate) (m.tickets.get? x)
      ((m.expire settings now).state.tickets.get? x) := by
  by_cases ho : ∃ r, (x, r) ∈ m.overdue settings.resultLifetime now
  · obtain ⟨r, ho⟩ := ho
    obtain ⟨s, hs, hst, _, ended⟩ := get?_expire_of_overdue h settings ho
    rw [hs, ended]
    exact .ended (by rw [hst]; rfl) rfl rfl
  · rw [get?_expire h settings now (not_exists.mp ho)]
    cases hs : m.tickets.get? x with
    | none => exact .active active_none active_none
    | some s =>
      rw [Option.filter_some]
      cases ended : s.status.isTerminal with
      | false =>
        rw [if_pos (h.accounted.isRemembered hs ended _ now)]
        exact .active (active_some.mpr ended) (active_some.mpr ended)
      | true =>
        split
        next remembered => exact .kept ended fun _ => remembered
        next old => exact .forgotten ended ⟨gate, rfl⟩ (by simpa using old)

variable {α : Type} [OfScientific α] [Add α] [Sub α] [Mul α] [LE α] [LT α]
  [DecidableLE α] [DecidableLT α]

theorem keeping_tick (h : m.Sound) (strategy : Strategy α) (gate : Gate) (settings : ManagerSettings)
    (x : Ticket) : Keeping settings.resultLifetime now (.tick gate) (m.tickets.get? x)
      ((m.tick strategy gate settings now).state.tickets.get? x) := by
  have swept := keeping_expire h settings now gate x
  rcases tick_cases strategy gate settings now m with ⟨_, hstate⟩ | ⟨_, w, scheduler, hw, hstate⟩
  · rw [hstate]
    exact swept
  · have sound := (expire_spec settings now h).1
    rw [hstate, get?_assign sound hw]
    split
    next hx =>
      obtain ⟨s, hs, hst, _⟩ := picked_queued sound hw
      rw [hx, hs] at swept
      rw [hx, hs, Option.map_some]
      -- the ticket was queued after the sweep, so it cannot have ended before or in it
      generalize m.tickets.get? w.task.ticket = before at swept ⊢
      cases swept with
      | active before => exact .active before (active_some.mpr rfl)
      | ended _ terminal | kept terminal =>
        rw [hst] at terminal
        cases terminal
    next => exact swept

theorem keeping_perform {strategy : Strategy α} {settings : ManagerSettings} {s : Clocked Manager}
    {e : Effect (Clocked Manager) Answer} (h : s.state.Sound)
    (hc : c.perform strategy settings s = .ok e) (t : Ticket) :
    Keeping settings.resultLifetime s.now c (s.state.tickets.get? t) (e.state.state.tickets.get? t) := by
  cases c with
  | registerModel | takeResult | advance => cases hc; exact keeping_untouched rfl (by simp) t
  | getResult => cases hc; exact keeping_untouched (tickets_getResult s.state) (by simp) t
  | look x => cases hc; exact keeping_untouched (tickets_look s.state x) (by simp) t
  | add payload candidates => cases hc; exact keeping_add h settings payload candidates t
  | tick gate => cases hc; exact keeping_tick h strategy gate settings t
  | setFree model => cases hc; exact keeping_setFree h model t
  | complete x outcome => cases hc; exact keeping_complete h x outcome t
  | withdraw provider => cases hc; exact keeping_withdraw h provider t
  | cancel x => cases hc; exact keeping_cancel s.state x t
  | move entry tier =>
    obtain ⟨_, hrun, rfl⟩ := except_map_eq_ok_iff.mp hc
    obtain ⟨⟨queue, there⟩, _, rfl⟩ := except_map_eq_ok_iff.mp hrun
    exact keeping_untouched rfl (by simp) t

end Call

section Turns

variable {settings : ManagerSettings} {t : Ticket}

def Leaves (t : Ticket) (turn : Turn (Clocked Manager) Call Answer) : Prop :=
  turn.before.state.status? t = some .queued ∧ turn.after.state.status? t ≠ some .queued

instance (t : Ticket) (turn : Turn (Clocked Manager) Call Answer) : Decidable (Leaves t turn) :=
  inferInstanceAs (Decidable (_ ∧ _))

def Cancels (t : Ticket) (turn : Turn (Clocked Manager) Call Answer) : Prop :=
  turn.call = .cancel t ∧ turn.answer = .cancelled true

def Ends (t : Ticket) (turn : Turn (Clocked Manager) Call Answer) : Prop :=
  (∃ status, turn.before.state.status? t = some status ∧ status.isTerminal = false) ∧
    ∃ status, turn.after.state.status? t = some status ∧ status.isTerminal

/-- A pass came when the end of the ticket was longer ago than the lifetime. -/
def Outlived (lifetime : Time) (t : Ticket) (turns : List (Turn (Clocked Manager) Call Answer)) : Prop :=
  ∃ earlier sweep later, turns = earlier ++ sweep :: later ∧ (∃ gate, sweep.call = .tick gate) ∧
    ∃ ending ∈ earlier, Ends t ending ∧ lifetime < elapsed ending.before.now sweep.before.now

theorem status_of_get? {m : Manager} {s : TicketState} (hs : m.tickets.get? t = some s) :
    m.status? t = some s.status := by
  rw [status?, hs, Option.map_some]

theorem Ends.finished {turn : Turn (Clocked Manager) Call Answer} (ends : Ends t turn) {lifetime : Time}
    (keep : Keeping lifetime turn.before.now turn.call (turn.before.state.tickets.get? t)
      (turn.after.state.tickets.get? t)) :
    ∃ s, turn.after.state.tickets.get? t = some s ∧ s.status.isTerminal ∧
      s.finishedAt = some turn.before.now := by
  obtain ⟨⟨_, before, running⟩, _, after, terminal⟩ := ends
  obtain ⟨s, hs, rfl⟩ := Option.map_eq_some_iff.mp before
  obtain ⟨s', hs', rfl⟩ := Option.map_eq_some_iff.mp after
  rw [hs, hs'] at keep
  cases keep with
  | active _ still => cases (active_some.mp still).symm.trans terminal
  | ended _ _ finished => exact ⟨s', hs', terminal, finished⟩
  | kept => cases running.symm.trans terminal

variable {α : Type} [OfScientific α] [Add α] [Sub α] [Mul α] [LE α] [LT α]
  [DecidableLE α] [DecidableLT α] {strategy : Strategy α}
  {start : Time} {s s₀ : Clocked Manager} {turns : List (Turn (Clocked Manager) Call Answer)}

theorem ended_in_turn (run : Run (Call.perform strategy settings) ⟨start, empty⟩ turns s)
    {st : TicketState} (hs : s.state.tickets.get? t = some st) (terminal : st.status.isTerminal) :
    ∃ ending ∈ turns, Ends t ending ∧ st.finishedAt = some ending.before.now := by
  induction run generalizing st with
  | start => cases hs
  | @next turns s c e run hc ih =>
    have keep := keeping_perform (sound_of_run run sound_empty) hc t
    rw [hs] at keep
    generalize hbefore : s.state.tickets.get? t = before at keep
    cases keep with
    | active _ still => cases (active_some.mp still).symm.trans terminal
    | ended running _ finished =>
      exact ⟨⟨s, c, e⟩, by simp, ⟨⟨_, status_of_get? hbefore, running⟩, _, status_of_get? hs, terminal⟩,
        finished⟩
    | kept =>
      obtain ⟨ending, hm, ended⟩ := ih hbefore terminal
      exact ⟨ending, List.mem_append_left _ hm, ended⟩

theorem terminal_step {c : Call} {e : Effect (Clocked Manager) Answer} (h : s.state.Sound)
    (hc : c.perform strategy settings s = .ok e) {st : TicketState}
    (known : s.state.tickets.get? t = some st) (terminal : st.status.isTerminal) :
    e.state.state.tickets.get? t = some st ∧
        ((∃ gate, c = .tick gate) → st.isRemembered settings.resultLifetime s.now) ∨
      Gone t e.state.state ∧ (∃ gate, c = .tick gate) ∧
        st.isRemembered settings.resultLifetime s.now = false := by
  have keep := keeping_perform h hc t
  rw [known] at keep
  generalize hafter : e.state.state.tickets.get? t = after at keep ⊢
  cases keep with
  | active running => cases (active_some.mp running).symm.trans terminal
  | ended running => cases running.symm.trans terminal
  | kept _ remembered => exact Or.inl ⟨rfl, remembered⟩
  | forgotten _ pass old =>
    have step := step_perform h hc
    have issued := Nat.le_trans (h.known t st known) step.issued_le
    exact Or.inr ⟨step.sound.gone issued (Option.map_eq_none_iff.mpr hafter), pass, old⟩

theorem terminal_run (run : Run (Call.perform strategy settings) s₀ turns s) (h : s₀.state.Sound)
    {st : TicketState} (hs : s₀.state.tickets.get? t = some st) (terminal : st.status.isTerminal) :
    s.state.tickets.get? t = some st ∨ Gone t s.state := by
  refine (run.keeps (I := fun s => s.state.Sound ∧ (s.state.tickets.get? t = some st ∨ Gone t s.state))
    (fun c s e kept hc => ?_) ⟨h, Or.inl hs⟩).2
  obtain ⟨sound, known | gone⟩ := kept
  · have step := terminal_step sound hc known terminal
    exact ⟨(step_perform sound hc).sound, step.imp And.left And.left⟩
  · have step := step_perform sound hc
    exact ⟨step.sound, Or.inr (gone.step step)⟩

theorem gone_of_outlived (run : Run (Call.perform strategy settings) ⟨start, empty⟩ turns s)
    (outlived : Outlived settings.resultLifetime t turns) : Gone t s.state := by
  obtain ⟨earlier, sweep, later, rfl, pass, ending, hending, ends, late⟩ := outlived
  obtain ⟨first, hsweep, last⟩ := run.cut_at
  obtain ⟨before, between, rfl⟩ := List.append_of_mem hending
  obtain ⟨opening, hend, mid⟩ := first.cut_at
  have sound := sound_of_run opening sound_empty
  have sweep_sound := sound_of_run first sound_empty
  obtain ⟨st, hst, terminal, finished⟩ := ends.finished (keeping_perform sound hend t)
  have step := step_perform sweep_sound hsweep
  refine Gone.run ?_ step.sound last
  rcases terminal_run mid (step_perform sound hend).sound hst terminal with known | gone
  · have old : ¬st.isRemembered settings.resultLifetime sweep.before.now := by
      rw [isRemembered_of_finished finished, decide_eq_true_eq]
      exact Nat.not_le_of_lt late
    rcases terminal_step sweep_sound hsweep known terminal with ⟨_, remembered⟩ | ⟨gone, _⟩
    · exact absurd (remembered pass) old
    · exact gone
  · exact gone.step step

theorem get?_of_cancel {m : Manager} (found : (m.cancel t).2 = true) :
    (∃ st, m.tickets.get? t = some st) ∧ (m.cancel t).1.tickets.get? t = none := by
  unfold cancel at found ⊢
  split at found
  next st hst =>
    split at found
    next queued =>
      rw [if_pos queued]
      exact ⟨⟨st, hst⟩, by rw [Table.get?_erase, if_pos rfl]⟩
    next => cases found
  next => cases found

theorem lost_in_turn {earlier : List (Turn (Clocked Manager) Call Answer)} {c : Call}
    {e : Effect (Clocked Manager) Answer}
    (run : Run (Call.perform strategy settings) ⟨start, empty⟩ earlier s)
    (hc : c.perform strategy settings s = .ok e) (there : ¬Gone t s.state) (gone : Gone t e.state.state) :
    s.state.status? t = some .queued ∧ Cancels t ⟨s, c, e⟩ ∨
      (∃ gate, c = .tick gate) ∧ ∃ ending ∈ earlier, Ends t ending ∧
        settings.resultLifetime < elapsed ending.before.now s.now := by
  have sound := sound_of_run run sound_empty
  have step := step_perform sound hc
  have hp := step.passage t
  rw [gone.standing] at hp
  rw [status_standing]
  generalize hbefore : s.state.standing t = before at hp ⊢
  generalize hanswer : e.answer = answer at hp
  cases hp with
  | stays none_issued =>
    -- unknown before as well, and issued by then
    have issued := step.issued_before gone.issued (hanswer ▸ none_issued)
    exact absurd ⟨issued, hbefore⟩ there
  | cancelled => exact Or.inl ⟨rfl, rfl, hanswer⟩
  | forgotten terminal =>
    obtain ⟨st, hst, hfields⟩ := Option.map_eq_some_iff.mp (congrArg Prod.fst hbefore)
    obtain ⟨rfl, rfl⟩ := Prod.mk.inj hfields
    obtain ⟨ending, hending, ends, finished⟩ := ended_in_turn run hst terminal
    rcases terminal_step sound hc hst terminal with ⟨known, _⟩ | ⟨_, pass, old⟩
    · have unknown := congrArg Prod.fst gone.standing
      rw [standing_eq known] at unknown
      cases unknown
    · rw [isRemembered_of_finished finished, decide_eq_false_iff_not] at old
      exact Or.inr ⟨pass, ending, hending, ends, Nat.lt_of_not_le old⟩

theorem gone_of_cancelled (run : Run (Call.perform strategy settings) ⟨start, empty⟩ turns s)
    {turn : Turn (Clocked Manager) Call Answer} (hturn : turn ∈ turns) (cancels : Cancels t turn) :
    Gone t s.state := by
  obtain ⟨earlier, later, rfl⟩ := List.append_of_mem hturn
  obtain ⟨first, hc, last⟩ := run.cut_at
  have sound := sound_of_run first sound_empty
  have step := step_perform sound hc
  refine Gone.run ?_ step.sound last
  obtain ⟨call, answered⟩ := cancels
  rw [call] at hc
  have effect := Except.ok.inj hc
  have found : (turn.before.state.cancel t).2 = true := by
    rw [Turn.answer, ← effect] at answered
    exact Answer.cancelled.inj answered
  obtain ⟨⟨st, hst⟩, unknown⟩ := get?_of_cancel found
  have after : turn.effect.state.state = (turn.before.state.cancel t).1 := by rw [← effect]; rfl
  refine step.sound.gone (Nat.le_trans (sound.known t st hst) step.issued_le) ?_
  rw [status?, after, unknown, Option.map_none]

theorem pos_of_issued (run : Run (Call.perform strategy settings) ⟨start, empty⟩ turns s)
    (issued : t ∈ issuedTickets turns) : 0 < t := by
  obtain ⟨turn, hturn, ht⟩ := List.mem_flatMap.mp issued
  exact Nat.zero_lt_of_lt ((step_of_mem run sound_empty hturn).issued_new ht).1

theorem left_iff (run : Run (Call.perform strategy settings) ⟨start, empty⟩ turns s)
    (issued : t ∈ issuedTickets turns) :
    (∃ turn ∈ turns, Leaves t turn) ↔ s.state.status? t ≠ some .queued := by
  rw [status_standing]
  constructor
  · rintro ⟨turn, hturn, before, after⟩
    obtain ⟨earlier, later, rfl⟩ := List.append_of_mem hturn
    obtain ⟨first, hc, last⟩ := run.cut_at
    have sound := sound_of_run first sound_empty
    have step := step_perform sound hc
    obtain ⟨st, hst, _⟩ := Option.map_eq_some_iff.mp before
    have left : Left t turn.after.state :=
      ⟨Nat.le_trans (sound.known t st hst) step.issued_le, status_standing turn.after.state t ▸ after⟩
    exact (left.run step.sound last).status
  · intro out
    have left : Left t s.state := ⟨(past run).bounded t issued, out⟩
    have unissued : ¬Left t empty := fun h => Nat.not_le_of_lt (pos_of_issued run issued) h.issued
    obtain ⟨earlier, turn, later, rfl, before, after, _⟩ :=
      run.since (P := fun s => Left t s.state) unissued left
    obtain ⟨first, hc, _⟩ := run.cut_at
    have sound := sound_of_run first sound_empty
    have step := step_perform sound hc
    refine ⟨turn, by simp, ?_, status_standing turn.after.state t ▸ after.status⟩
    -- had it not been queued before, it would have been issued in this turn, and been queued after it
    by_contra unqueued
    rw [status_standing] at unqueued
    have new : turn.before.state.issued < t := Nat.lt_of_not_le fun old => before ⟨old, unqueued⟩
    have unknown : turn.before.state.status? t = none := by
      rw [status?, sound.get?_of_lt new, Option.map_none]
    rcases step.unknown (sound.standing_unknown unknown) with ⟨unissued, _⟩ | ⟨_, queued⟩
    · exact Nat.not_le_of_lt new (step.issued_before after.issued unissued)
    · exact after.status (congrArg (fun st => st.1.map Prod.fst) queued)

theorem Gone.unknown {m : Manager} (gone : Gone t m) : m.status? t = none := by
  rw [status_standing, gone.standing, Option.map_none]

/-- Nothing is known of a ticket that was issued just when it was cancelled or a pass outlived it. -/
theorem unknown_iff (run : Run (Call.perform strategy settings) ⟨start, empty⟩ turns s)
    (issued : t ∈ issuedTickets turns) : s.state.status? t = none ↔
      (∃ turn ∈ turns, Cancels t turn) ∨ Outlived settings.resultLifetime t turns := by
  constructor
  · intro unknown
    have gone := (sound_of_run run sound_empty).gone ((past run).bounded t issued) unknown
    have unissued : ¬Gone t empty := fun h => Nat.not_le_of_lt (pos_of_issued run issued) h.issued
    obtain ⟨earlier, turn, later, rfl, there, gone, _⟩ :=
      run.since (P := fun s => Gone t s.state) unissued gone
    obtain ⟨first, hc, _⟩ := run.cut_at
    rcases lost_in_turn first hc there gone with ⟨_, cancels⟩ | ⟨pass, ended⟩
    · exact Or.inl ⟨turn, by simp, cancels⟩
    · exact Or.inr ⟨earlier, turn, later, rfl, pass, ended⟩
  · rintro (⟨turn, hturn, cancels⟩ | outlived)
    · exact (gone_of_cancelled run hturn cancels).unknown
    · exact (gone_of_outlived run outlived).unknown

theorem isFinished_iff {m : Manager} :
    m.isFinished t = true ↔ m.status? t ≠ none ∧ m.status? t ≠ some .queued := by
  unfold isFinished
  cases m.status? t <;> simp

theorem Sound.left {m : Manager} (h : m.Sound) (finished : m.isFinished t = true) : Left t m := by
  obtain ⟨known, unqueued⟩ := isFinished_iff.mp finished
  obtain ⟨st, hst⟩ := Option.ne_none_iff_exists'.mp (fun h => known (Option.map_eq_none_iff.mpr h))
  exact ⟨h.known t st hst, status_standing m t ▸ unqueued⟩

theorem outlived_of_lost {earlier later : List (Turn (Clocked Manager) Call Answer)} {mid : Clocked Manager}
    (first : Run (Call.perform strategy settings) ⟨start, empty⟩ earlier mid)
    (last : Run (Call.perform strategy settings) mid later s) (finished : mid.state.isFinished t = true)
    (gone : Gone t s.state) : Outlived settings.resultLifetime t (earlier ++ later) := by
  have sound := sound_of_run first sound_empty
  have there : ¬Gone t mid.state := fun h => (isFinished_iff.mp finished).1 h.unknown
  obtain ⟨between, turn, rest, rfl, there, gone, _⟩ :=
    last.since (P := fun s => Gone t s.state) there gone
  obtain ⟨until_turn, hc, _⟩ := last.cut_at
  rcases lost_in_turn (first.append until_turn) hc there gone with ⟨queued, _⟩ | ⟨pass, ended⟩
  · have left := (sound.left finished).run sound until_turn
    exact absurd (status_standing turn.before.state t ▸ queued) left.status
  · exact ⟨earlier ++ between, turn, rest, by simp, pass, ended⟩

/-- Over any run, a ticket that was issued counts as finished just when it has left the queue, has not been
cancelled, and no pass came longer than the lifetime after it ended. Once finished it is finished for good
unless such a pass comes. -/
theorem finished_until_outlived (run : Run (Call.perform strategy settings) ⟨start, empty⟩ turns s)
    (issued : t ∈ issuedTickets turns) :
    (s.state.isFinished t = true ↔ (∃ turn ∈ turns, Leaves t turn) ∧
      (∀ turn ∈ turns, ¬Cancels t turn) ∧ ¬Outlived settings.resultLifetime t turns) ∧
    ∀ turn ∈ turns, turn.after.state.isFinished t = true →
      s.state.isFinished t = true ∨ Outlived settings.resultLifetime t turns := by
  constructor
  · have known : s.state.status? t ≠ none ↔
        (∀ turn ∈ turns, ¬Cancels t turn) ∧ ¬Outlived settings.resultLifetime t turns := by
      rw [ne_eq, unknown_iff run issued, not_or, not_exists]
      simp only [not_and]
    rw [isFinished_iff, left_iff run issued, known, and_comm]
  · intro turn hturn finished
    obtain ⟨earlier, later, rfl⟩ := List.append_of_mem hturn
    obtain ⟨first, hc, last⟩ := run.cut_at
    have sound := (step_perform (sound_of_run first sound_empty) hc).sound
    by_cases unknown : s.state.status? t = none
    · have gone := (sound_of_run run sound_empty).gone ((past run).bounded t issued) unknown
      have outlived := outlived_of_lost (first.next hc) last finished gone
      rw [List.append_assoc, List.singleton_append] at outlived
      exact Or.inr outlived
    · have left := (sound.left finished).run sound last
      exact Or.inl (isFinished_iff.mpr ⟨unknown, status_standing s.state t ▸ left.status⟩)

/-- A completed ticket is finished and, when a pass has forgotten it, is not. A cancelled ticket, gone from
the queue as well, never was. -/
theorem polled_too_late : ∃ turns s,
    Run (Call.perform (.firstCome : Strategy Double) ⟨seconds 60, 1⟩) ⟨0, empty⟩ turns s ∧
      issuedTickets turns = [1, 2] ∧
      (∃ turn ∈ turns, Leaves 1 turn) ∧ (∃ turn ∈ turns, turn.after.state.isFinished 1 = true) ∧
      s.state.isFinished 1 = false ∧
      (∃ turn ∈ turns, Leaves 2 turn) ∧ s.state.isFinished 2 = false := by
  let request : Call := .add "" [⟨"m", "p", 1, .normal⟩]
  have played : ((play (Call.perform (.firstCome : Strategy Double) ⟨seconds 60, 1⟩)
      [request, .tick .unguarded, .complete 1 .success, request, .cancel 2, .advance (seconds 60 + 1),
        .tick .unguarded] ⟨0, empty⟩).toOption.map fun r =>
        (issuedTickets r.1, r.1.any (fun turn => Leaves 1 turn),
          r.1.any (fun turn => turn.after.state.isFinished 1), r.2.state.isFinished 1,
          r.1.any (fun turn => Leaves 2 turn), r.2.state.isFinished 2)) =
      some ([1, 2], true, true, false, true, false) := by decide +kernel
  obtain ⟨turns, s, run, hview⟩ := Run.exists_of_play played
  simp only [Prod.mk.injEq, List.any_eq_true, decide_eq_true_eq] at hview
  exact ⟨turns, s, run, hview⟩

/-- Polled within the lifetime, the ticket is finished. -/
theorem polled_in_time : ∃ turns s,
    Run (Call.perform (.firstCome : Strategy Double) ⟨seconds 60, 1⟩) ⟨0, empty⟩ turns s ∧
      1 ∈ issuedTickets turns ∧ s.state.isFinished 1 = true ∧ (∃ turn ∈ turns, Leaves 1 turn) ∧
      ¬Outlived (seconds 60) 1 turns := by
  let request : Call := .add "" [⟨"m", "p", 1, .normal⟩]
  have played : ((play (Call.perform (.firstCome : Strategy Double) ⟨seconds 60, 1⟩)
      [request, .tick .unguarded, .complete 1 .success, .advance (seconds 60), .tick .unguarded]
      ⟨0, empty⟩).toOption.map fun r => (issuedTickets r.1, r.2.state.isFinished 1)) =
      some ([1], true) := by decide +kernel
  obtain ⟨turns, s, run, hview⟩ := Run.exists_of_play played
  obtain ⟨issued, finished⟩ := Prod.mk.inj hview
  have one : 1 ∈ issuedTickets turns := by rw [issued]; exact List.mem_singleton_self 1
  obtain ⟨left, _, remembered⟩ := (finished_until_outlived run one).1.mp finished
  exact ⟨turns, s, run, one, finished, left, remembered⟩

end Turns

end Manager

end InferenceDispatch
