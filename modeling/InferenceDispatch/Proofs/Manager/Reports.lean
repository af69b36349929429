import InferenceDispatch.Proofs.Manager.InFlight
import InferenceDispatch.Proofs.Manager.Withdrawal

namespace InferenceDispatch

namespace Manager

def eventsOf (t : Ticket) (es : List Event) : List Event := es.filter fun e => e.ticket? = some t

def report (t : Ticket) (r : Result) : Event :=
  .scheduled t r.key.model r.key.provider r.priority (Event.waitMs r.waited) r.readyAt

/-- What may be reported of a ticket in a turn, by how the ticket stood before and after it. -/
inductive Reports (t : Ticket) : (before after : Standing) → List Event → Prop
  | stays {st : Standing} : Reports t st st []
  | enqueued {candidates : List String} {now : Time} :
      Reports t (none, none) (some (.queued, none), none) [.enqueue t candidates now]
  | scheduled {model? : Option String} {r : Result} : Reports t (some (.queued, model?), none)
      (some (.scheduled, some r.key.model), some r) [report t r]
  | claimed {model? : Option String} {r : Result} :
      Reports t (some (.scheduled, model?), some r) (some (.scheduled, model?), none) []
  | ended {model : String} {r? : Option Result} {status : Status} {error : Option String}
      {now : Time} : status.isTerminal →
      Reports t (some (.scheduled, some model), r?) (some (status, some model), none)
        [.complete t model status error now]
  | failed {model? : Option String} {model : String} {error : Option String} {now : Time} :
      Reports t (some (.queued, model?), none) (some (.failed, model?), none)
        [.complete t model .failed error now]
  | gone {status : Status} {model? : Option String} : status ≠ .scheduled →
      Reports t (some (status, model?), none) (none, none) []

section Events

variable {t : Ticket} {es es' : List Event} {e : Event}

theorem eventsOf_append : eventsOf t (es ++ es') = eventsOf t es ++ eventsOf t es' :=
  List.filter_append ..

theorem mem_eventsOf : e ∈ eventsOf t es ↔ e ∈ es ∧ e.ticket? = some t := by
  rw [eventsOf, List.mem_filter, decide_eq_true_eq]

theorem eventsOf_single (he : e.ticket? = some t) : eventsOf t [e] = [e] := by
  rw [eventsOf, List.filter_singleton, he]
  simp

theorem eventsOf_other {x : Ticket} (he : e.ticket? = some x) (hx : t ≠ x) :
    eventsOf t [e] = [] := by
  rw [eventsOf, List.filter_singleton, he]
  simp [Ne.symm hx]

end Events

variable {m : Manager} {now : Time}

/-- A call that reports nothing lets no ticket in and ends none. -/
def Call.isSilent : Call → Bool
  | add .. | tick _ | setFree _ | complete .. | withdraw _ => false
  | _ => true

theorem Passage.reports {t : Ticket} {c : Call} {answer : Answer} {before after : Standing}
    (h : Passage t c answer before after) (silent : c.isSilent = true) :
    Reports t before after [] := by
  cases h with
  | stays => exact .stays
  | claimed => exact .claimed
  | cancelled => exact .gone (by simp)
  | issued | scheduled | expired | forgotten | freed | completed | orphaned => cases silent

section Add

theorem events_add (settings : ManagerSettings) (now : Time) (payload : Payload)
    {candidates : List Candidate} (hne : candidates ≠ []) :
    (m.add settings now payload candidates).events =
      [.enqueue (m.issued + 1) (candidates.map Candidate.model) now] := by
  have admitted : m.add settings now payload candidates = _ := if_neg (by simpa using hne)
  rw [admitted]
  rfl

theorem reports_add (h : m.Sound) (settings : ManagerSettings) (now : Time) (payload : Payload)
    (candidates : List Candidate) (t : Ticket) :
    Reports t (m.standing t) ((m.add settings now payload candidates).state.standing t)
      (eventsOf t (m.add settings now payload candidates).events) := by
  by_cases hne : candidates = []
  · subst hne
    exact .stays
  · obtain ⟨_, new, a⟩ := adds h settings now payload hne
    rw [events_add settings now payload hne]
    rcases a.standing h t with ⟨rfl, before, after⟩ | ⟨ht, same⟩
    · rw [before, after, eventsOf_single rfl]
      exact .enqueued
    · rw [same, eventsOf_other rfl ht]
      exact .stays

end Add

section Close

variable {t : Ticket} {s : TicketState} {status : Status}

theorem reports_close (h : m.Sound) (hs : m.tickets.get? t = some s) (hst : s.status = .scheduled)
    (terminal : status.isTerminal) {model : String} (hmodel : s.model = some model)
    (error : Option String) (x : Ticket) :
    Reports x (m.standing x) ((m.close t status now).1.standing x)
      (eventsOf x [.complete t model status error now]) := by
  rw [standing_close h hs hst]
  by_cases hx : x = t
  · rw [if_pos hx, hx, standing_eq hs, hst, hmodel, eventsOf_single rfl]
    exact .ended terminal
  · rw [if_neg hx, eventsOf_other rfl hx]
    exact .stays

theorem reports_setFree (h : m.Sound) (now : Time) (model : String) (x : Ticket) :
    Reports x (m.standing x) ((m.setFree now model).state.standing x)
      (eventsOf x (m.setFree now model).events) := by
  unfold setFree
  split
  next => exact .stays
  next t ht =>
    obtain ⟨s, hs, hst, hmodel⟩ := h.accounted.mem_holders.mp (slotHolder?_mem ht)
    exact reports_close h hs hst rfl hmodel none x

theorem reports_complete (h : m.Sound) (now : Time) (t : Ticket) (outcome : CallOutcome)
    (x : Ticket) : Reports x (m.standing x) ((m.complete now t outcome).state.standing x)
      (eventsOf x (m.complete now t outcome).events) := by
  unfold complete
  split
  next => exact .stays
  next hst =>
    obtain ⟨s, hs, hst⟩ := Option.map_eq_some_iff.mp hst
    obtain ⟨model, hmodel, heq⟩ := close_eq h hs hst outcome.status now
    have terminal : outcome.status.isTerminal = true := by cases outcome <;> rfl
    have closed : Reports x (m.standing x) ((m.close t outcome.status now).1.standing x)
        (eventsOf x [.complete t model outcome.status outcome.error now]) :=
      reports_close h hs hst terminal hmodel outcome.error x
    rw [heq] at closed ⊢
    exact closed
  next => exact .stays

end Close

section Withdraw

def lost (now : Time) (task : Task) : Event :=
  .complete task.ticket ((task.candidates.head?.map Candidate.model).getD "") .failed
    (some "provider removed") now

theorem events_orphans (now : Time) (tasks : List Task) (e : Effect Manager (List Ticket))
    (known : ∀ task ∈ tasks, ∃ s, e.state.tickets.get? task.ticket = some s) :
    (tasks.foldl (fun e task => e.andThen fun failed m =>
      (m.orphan now task).map fun t => failed ++ t.toList) e).events =
      e.events ++ tasks.map (lost now) := by
  induction tasks generalizing e with
  | nil => exact (List.append_nil _).symm
  | cons task tasks ih =>
    obtain ⟨s, hs⟩ := known task List.mem_cons_self
    rw [List.foldl_cons, ih]
    · rw [Effect.events_andThen, List.append_assoc, orphan, hs]
      rfl
    · intro o ho
      rw [Effect.state_andThen, orphan, hs]
      change ∃ s, (Table.insert _ _ _).get? _ = _
      rw [Table.get?_insert]
      split
      next => exact ⟨_, rfl⟩
      next => exact known o (List.mem_cons_of_mem _ ho)

theorem eventsOf_lost {t : Ticket} {tasks : List Task} (ht : t ∉ tasks.map Task.ticket) :
    eventsOf t (tasks.map (lost now)) = [] := by
  refine List.filter_eq_nil_iff.mpr fun e he => ?_
  obtain ⟨task, htask, rfl⟩ := List.mem_map.mp he
  rw [decide_eq_true_eq]
  intro same
  exact ht (Option.some.inj same ▸ List.mem_map_of_mem htask)

theorem events_withdraw (h : m.Sound) (now : Time) (provider : String) :
    (m.withdraw now provider).events = (m.scheduler.withdraw provider).2.map (lost now) :=
  events_orphans now _ (.answerOnly _ []) fun task htask => by
    obtain ⟨s, hs, _⟩ := queued_of_orphan h provider (List.mem_map_of_mem htask)
    exact ⟨s, hs⟩

theorem reports_withdraw (h : m.Sound) (now : Time) (provider : String) (t : Ticket) :
    Reports t (m.standing t) ((m.withdraw now provider).state.standing t)
      (eventsOf t (m.withdraw now provider).events) := by
  obtain ⟨_, hstate, tickets⟩ := withdraw_spec h now provider
  have results := congrArg Manager.results hstate
  have nodup := nodup_orphans h provider
  rw [events_withdraw h]
  by_cases ht : t ∈ (m.scheduler.withdraw provider).2.map Task.ticket
  · obtain ⟨s, hs, hst⟩ := queued_of_orphan h provider ht
    have before := h.standing_queued hs hst
    have ended := tickets t
    rw [if_pos ht, hs, Option.map_some] at ended
    obtain ⟨task, htask, rfl⟩ := List.mem_map.mp ht
    obtain ⟨front, back, hsplit⟩ := List.append_of_mem htask
    rw [hsplit] at nodup ⊢
    simp only [List.map_append, List.map_cons] at nodup ⊢
    obtain ⟨_, hback, apart⟩ := List.nodup_append.mp nodup
    have one : eventsOf task.ticket (front.map (lost now) ++ lost now task :: back.map (lost now)) =
        [lost now task] := by
      rw [← List.singleton_append, eventsOf_append, eventsOf_append, eventsOf_single rfl,
        eventsOf_lost fun hm => apart _ hm _ List.mem_cons_self rfl,
        eventsOf_lost (List.nodup_cons.mp hback).1, List.nil_append, List.append_nil]
    rw [one, before, standing_eq ended, results, (Prod.mk.inj before).2]
    exact .failed
  · have same : (m.withdraw now provider).state.standing t = m.standing t := by
      unfold standing
      rw [tickets, if_neg ht, results]
    rw [same, eventsOf_lost ht]
    exact .stays

end Withdraw

section Tick

/-- What the sweep of a pass reports of a ticket: that its result has expired, and nothing else. -/
inductive Sweeps (t : Ticket) (now : Time) : (before after : Standing) → List Event → Prop
  | stays {st : Standing} : Sweeps t now st st []
  | expired {model : String} {r : Result} : Sweeps t now (some (.scheduled, some model), some r)
      (some (.expired, some model), none) [.complete t model .expired none now]
  | forgotten {status : Status} {model? : Option String} : status.isTerminal →
      Sweeps t now (some (status, model?), none) (none, none) []

theorem Sweeps.reports {t : Ticket} {before after : Standing} {es : List Event}
    (h : Sweeps t now before after es) : Reports t before after es := by
  cases h with
  | stays => exact .stays
  | expired => exact .ended rfl
  | forgotten terminal =>
    refine .gone ?_
    rintro rfl
    cases terminal

theorem standing_forget (m : Manager) (lifetime now : Time) (t : Ticket) :
    (m.forget lifetime now).standing t = m.standing t ∨
      ((m.forget lifetime now).standing t).1 = none := by
  cases hs : (m.forget lifetime now).tickets.get? t with
  | none =>
    refine Or.inr ?_
    rw [standing, hs, Option.map_none]
  | some s =>
    refine Or.inl ?_
    rw [standing_eq hs, standing_eq ((get?_forget m lifetime now t s).mp hs).1]
    rfl

theorem Sweeps.expire {t : Ticket} {before : Standing} {e : Effect Manager Unit} (h : e.state.Sound)
    (swept : Sweeps t now before (e.state.standing t) (eventsOf t e.events)) {x : Ticket}
    {r : Result} (hr : e.state.results.get? x = some r) :
    Sweeps t now before ((e.andThen fun _ m => expireResult now m x).state.standing t)
      (eventsOf t (e.andThen fun _ m => expireResult now m x).events) := by
  obtain ⟨_, s, hs, hst, hmodel⟩ := h.accounted.results x r hr
  have closed := standing_close h hs hst .expired now t
  rw [Effect.events_andThen, events_expireResult h hr, eventsOf_append, Effect.state_andThen,
    expireResult, closed]
  by_cases ht : t = x
  · subst ht
    have waits : e.state.standing t = (some (.scheduled, some r.key.model), some r) := by
      rw [standing_eq hs, hst, hmodel, hr]
    rw [waits] at swept
    rw [if_pos rfl, hmodel, eventsOf_single rfl]
    -- its result is still there, so nothing was reported of the ticket yet
    generalize eventsOf t e.events = es at swept ⊢
    cases swept
    exact .expired
  · rw [if_neg ht, eventsOf_other rfl ht, List.append_nil]
    exact swept

theorem Sweeps.forget {t : Ticket} {before swept after : Standing} {es : List Event}
    (h : Sweeps t now before swept es) (lapse : Lapse before after)
    (kept : after = swept ∨ after.1 = none) : Sweeps t now before after es := by
  rcases kept with rfl | forgotten
  · exact h
  · cases lapse with
    | stays =>
      cases h with
      | stays => exact .stays
      | expired | forgotten => cases forgotten
    | expired => cases forgotten
    | forgotten terminal =>
      cases h with
      | stays | forgotten => exact .forgotten terminal

theorem sweeps_expire (h : m.Sound) (settings : ManagerSettings) (now : Time) (t : Ticket) :
    Sweeps t now (m.standing t) ((m.expire settings now).state.standing t)
      (eventsOf t (m.expire settings now).events) := by
  obtain ⟨_, _, _, lapse⟩ := expire_spec settings now h
  have swept := expireResults_induct
    (P := fun e => Sweeps t now (m.standing t) (e.state.standing t) (eventsOf t e.events))
    h (nodup_staleResults m settings.resultLifetime now) (fun t ht => mem_staleResults ht) now
    .stays fun e x r sound hr swept => swept.expire sound hr
  exact swept.forget (lapse t) (standing_forget _ settings.resultLifetime now t)

variable {α : Type} [OfScientific α] [Add α] [Sub α] [Mul α] [LE α] [LT α]
  [DecidableLE α] [DecidableLT α] {strategy : Strategy α} {gate : Gate}

theorem reports_tick (h : m.Sound) (settings : ManagerSettings) (now : Time) (t : Ticket) :
    Reports t (m.standing t) ((m.tick strategy gate settings now).state.standing t)
      (eventsOf t (m.tick strategy gate settings now).events) := by
  obtain ⟨sound, _⟩ := expire_spec settings now h
  have swept := sweeps_expire h settings now t
  unfold tick
  simp only [Effect.events_andThen, Effect.state_andThen, eventsOf_append]
  split
  next => exact (List.append_nil (eventsOf t _)).symm ▸ swept.reports
  next =>
    split
    next => exact (List.append_nil (eventsOf t _)).symm ▸ swept.reports
    next w scheduler hw =>
      obtain ⟨⟨model?, before⟩, after⟩ := standing_assign sound hw
      have told : ({ (m.expire settings now).state with scheduler }.assign now w).events =
        [report w.task.ticket (resultOf w now)] := rfl
      rw [after, told]
      by_cases ht : t = w.task.ticket
      · rw [if_pos ht]
        rw [ht, before] at swept
        rw [ht, eventsOf_single rfl]
        generalize eventsOf w.task.ticket (m.expire settings now).events = es at swept ⊢
        generalize m.standing w.task.ticket = first at swept ⊢
        cases swept
        exact .scheduled (r := resultOf w now)
      · rw [if_neg ht, eventsOf_other rfl ht, List.append_nil]
        exact swept.reports

theorem ticket_of_expire (settings : ManagerSettings) (now : Time) (m : Manager) :
    ∀ x ∈ (m.expire settings now).events, ∃ t, x.ticket? = some t := by
  change ∀ x ∈ (expireResults now _ m).events, _
  generalize m.staleResults settings.resultLifetime now = ts
  unfold expireResults
  have start : ∀ x ∈ (Effect.answerOnly m ()).events, ∃ t, x.ticket? = some t := by
    simp [Effect.answerOnly]
  generalize Effect.answerOnly m () = e at start
  induction ts generalizing e with
  | nil => exact start
  | cons t ts ih =>
    refine ih _ fun x hx => ?_
    rcases List.mem_append.mp hx with hx | hx
    · exact start x hx
    · obtain ⟨model, _, rfl⟩ := List.mem_map.mp hx
      exact ⟨t, rfl⟩

theorem ticket_of_tick (settings : ManagerSettings) {x : Event}
    (hx : x ∈ (m.tick strategy gate settings now).events) : ∃ t, x.ticket? = some t := by
  unfold tick at hx
  rw [Effect.events_andThen, List.mem_append] at hx
  rcases hx with hx | hx
  · exact ticket_of_expire settings now m x hx
  · split at hx
    next => cases hx
    next =>
      split at hx
      next => cases hx
      next w _ _ => exact ⟨w.task.ticket, List.mem_singleton.mp hx ▸ rfl⟩

end Tick

section Perform

variable {α : Type} [OfScientific α] [Add α] [Sub α] [Mul α] [LE α] [LT α]
  [DecidableLE α] [DecidableLT α] {strategy : Strategy α} {settings : ManagerSettings}
  {s : Clocked Manager} {c : Call} {e : Effect (Clocked Manager) Answer}

theorem events_silent (hc : c.perform strategy settings s = .ok e) (silent : c.isSilent = true) :
    e.events = [] := by
  cases c with
  | add | tick | setFree | complete | withdraw => cases silent
  | move entry tier =>
    obtain ⟨_, hrun, rfl⟩ := except_map_eq_ok_iff.mp hc
    obtain ⟨_, _, rfl⟩ := except_map_eq_ok_iff.mp hrun
    rfl
  | registerModel | getResult | takeResult | look | cancel | advance => cases hc; rfl

theorem ticket_of_event (h : s.state.Sound) (hc : c.perform strategy settings s = .ok e) {x : Event}
    (hx : x ∈ e.events) : ∃ t, x.ticket? = some t := by
  cases c with
  | add payload candidates =>
    cases hc
    by_cases hne : candidates = []
    · subst hne
      cases hx
    · have hx : x ∈ (s.state.add settings s.now payload candidates).events := hx
      rw [events_add settings s.now payload hne, List.mem_singleton] at hx
      exact ⟨s.state.issued + 1, hx ▸ rfl⟩
  | tick gate =>
    cases hc
    exact ticket_of_tick settings hx
  | setFree model =>
    cases hc
    simp only [Effect.map, setFree] at hx
    split at hx
    next => cases hx
    next t _ => exact ⟨t, List.mem_singleton.mp hx ▸ rfl⟩
  | complete t outcome =>
    cases hc
    simp only [Effect.map, complete] at hx
    split at hx
    next => cases hx
    next => exact ⟨t, List.mem_singleton.mp hx ▸ rfl⟩
    next => cases hx
  | withdraw provider =>
    cases hc
    have hx : x ∈ (s.state.withdraw s.now provider).events := hx
    rw [events_withdraw h] at hx
    obtain ⟨task, _, rfl⟩ := List.mem_map.mp hx
    exact ⟨task.ticket, rfl⟩
  | registerModel | getResult | takeResult | look | cancel | move | advance =>
    rw [events_silent hc rfl] at hx
    cases hx

/-- What any call reports of a ticket. -/
theorem reports_perform (h : s.state.Sound) (hc : c.perform strategy settings s = .ok e)
    (t : Ticket) :
    Reports t (s.state.standing t) (e.state.state.standing t) (eventsOf t e.events) := by
  cases silent : c.isSilent with
  | true =>
    rw [events_silent hc silent]
    exact ((step_perform h hc).passage t).reports silent
  | false =>
    cases c with
    | add payload candidates => cases hc; exact reports_add h settings s.now payload candidates t
    | tick gate => cases hc; exact reports_tick h settings s.now t
    | setFree model => cases hc; exact reports_setFree h s.now model t
    | complete ticket outcome => cases hc; exact reports_complete h s.now ticket outcome t
    | withdraw provider => cases hc; exact reports_withdraw h s.now provider t
    | registerModel | getResult | takeResult | look | cancel | move | advance => cases silent

end Perform

end Manager

end InferenceDispatch
