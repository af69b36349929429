import InferenceDispatch.Number.Double
import InferenceDispatch.Proofs.Manager.LifeCycle
import InferenceDispatch.Proofs.Manager.SlotOwnership

namespace InferenceDispatch

namespace Manager

/-- The grounds on which a call is refused, with the answer it gets. -/
inductive Refused (m : Manager) : Call → Answer → Prop
  | noCandidates {payload} : Refused m (.add payload []) (.admitted (.error .noCandidates))
  | unknown {t outcome} : m.status? t = none →
      Refused m (.complete t outcome) (.completed (.error (.unknownTicket t)))
  | wrongStatus {t outcome status} : m.status? t = some status → status ≠ .scheduled →
      Refused m (.complete t outcome) (.completed (.error (.wrongStatus t status)))
  | notQueued {t} : m.status? t ≠ some .queued → Refused m (.cancel t) (.cancelled false)
  | notHeld {model} : (∀ t, m.slotOf t ≠ some model) → Refused m (.setFree model) (.freed false)
  | noResult {t} : m.results.get? t = none → Refused m (.takeResult t) (.claimed none)

/-- One slot was freed, that of one ticket, which ended; its result went, and all else stayed. -/
structure Frees (t : Ticket) (model : String) (status : Status) (m m' : Manager) : Prop where
  held : m.slotOf t = some model
  returned : m'.slotOf t = none
  ended : m'.status? t = some status
  others : ∀ x, x ≠ t → m'.tickets.get? x = m.tickets.get? x
  busy : ∀ other, m.slots.busy other = m'.slots.busy other + if other = model then 1 else 0
  total : ∀ other, m'.slots.total other = m.slots.total other
  results : ∀ x, m'.results.get? x = if x = t then none else m.results.get? x
  scheduler : m'.scheduler = m.scheduler
  issued : m'.issued = m.issued

/-- Of the tickets that hold a slot of a model, the lowest of those whose result was `claimed`; if it was
of none, the lowest of all. -/
structure NextFreed (m : Manager) (claimed : Ticket → Prop) (model : String) (t : Ticket) : Prop where
  holder : m.slotOf t = some model
  claimed_first : ∀ x, m.slotOf x = some model → claimed x → claimed t ∧ t ≤ x
  lowest : ¬claimed t → ∀ x, m.slotOf x = some model → t ≤ x

section Call

variable {m : Manager} {t : Ticket} {s : TicketState} {model : String} {now : Time}

theorem slotHolder?_eq_none_iff : m.slotHolder? model = none ↔ ∀ t, m.slotOf t ≠ some model := by
  simp only [slotHolder?, Option.or_eq_none_iff, List.min?_eq_none_iff]
  constructor
  · rintro ⟨_, none_holds⟩ t ht
    rw [← mem_holders_iff_slotOf, none_holds] at ht
    cases ht
  · intro none_holds
    have empty : m.holders model = [] :=
      List.eq_nil_iff_forall_not_mem.mpr fun t ht => none_holds t (mem_holders_iff_slotOf.mp ht)
    simp [empty]

theorem nextFreed_of_slotHolder? (ht : m.slotHolder? model = some t) :
    NextFreed m (fun x => m.results.get? x = none) model t := by
  have mem : ∀ x, x ∈ (m.holders model).filter (fun x => !m.results.contains x) ↔
      m.slotOf x = some model ∧ m.results.get? x = none := by
    intro x
    rw [List.mem_filter, mem_holders_iff_slotOf, Bool.not_eq_true', ← Bool.not_eq_true,
      SortedMap.contains_iff, Option.eq_none_iff_forall_ne_some, not_exists]
  have holder := mem_holders_iff_slotOf.mp (slotHolder?_mem ht)
  rcases Option.or_eq_some_iff.mp ht with first | ⟨none_claimed, first⟩
  · obtain ⟨hmem, least⟩ := List.min?_eq_some_iff.mp first
    have claimed := ((mem t).mp hmem).2
    refine ⟨holder, fun x hx hr => ⟨claimed, least x ((mem x).mpr ⟨hx, hr⟩)⟩, ?_⟩
    exact fun unclaimed => absurd claimed unclaimed
  · have least := (List.min?_eq_some_iff.mp first).2
    have all_wait := List.min?_eq_none_iff.mp none_claimed
    refine ⟨holder, fun x hx hr => ?_, fun _ x hx => least x (mem_holders_iff_slotOf.mpr hx)⟩
    have hm := (mem x).mpr ⟨hx, hr⟩
    rw [all_wait] at hm
    cases hm

theorem NextFreed.congr {claimed claimed' : Ticket → Prop} (h : NextFreed m claimed model t)
    (same : ∀ x, m.slotOf x = some model → (claimed x ↔ claimed' x)) :
    NextFreed m claimed' model t where
  holder := h.holder
  claimed_first := by
    intro x hx hc
    obtain ⟨ht, least⟩ := h.claimed_first x hx ((same x hx).mpr hc)
    exact ⟨(same t h.holder).mp ht, least⟩
  lowest := fun ht => h.lowest fun hc => ht ((same t h.holder).mp hc)

theorem frees_close (h : m.Sound) (hs : m.tickets.get? t = some s) (hst : s.status = .scheduled)
    (hmodel : s.model = some model) (status : Status) (now : Time) :
    Frees t model status m (m.close t status now).1 := by
  have holder : t ∈ m.holders model := h.accounted.mem_holders.mpr ⟨s, hs, hst, hmodel⟩
  obtain ⟨_, same, closed⟩ := close_eq h hs hst status now
  obtain rfl : model = _ := Option.some.inj (hmodel.symm.trans same)
  have after := get?_close h hs hst status now t
  rw [if_pos rfl] at after
  refine ⟨mem_holders_iff_slotOf.mp holder, ?_, ?_, fun x hx => ?_, fun other => ?_, fun other => ?_,
    result_close h hs hst status now, (scheduler_close h hs hst status now).1,
    (scheduler_close h hs hst status now).2⟩
  · rw [slotOf, after]
    rfl
  · rw [status?, after]
    rfl
  · rw [get?_close h hs hst, if_neg hx]
  · rw [closed, SlotTable.busy_release]
    have one : 0 < m.slots.busy model := by
      rw [h.accounted.busy]
      exact List.length_pos_of_mem holder
    split
    next ho =>
      subst ho
      omega
    next => rfl
  · rw [closed, SlotTable.total_release]

theorem complete_scheduled (h : m.Sound) (hst : m.status? t = some .scheduled) (now : Time)
    (outcome : CallOutcome) : ∃ model, m.slotOf t = some model ∧
      m.complete now t outcome = ⟨(m.close t outcome.status now).1, .ok outcome.status,
        [.complete t model outcome.status outcome.error now]⟩ ∧
      Frees t model outcome.status m (m.close t outcome.status now).1 := by
  obtain ⟨s, hs, hstatus⟩ := Option.map_eq_some_iff.mp hst
  obtain ⟨model, hmodel, closed⟩ := close_eq h hs hstatus outcome.status now
  have frees := frees_close h hs hstatus hmodel outcome.status now
  refine ⟨model, frees.held, ?_, frees⟩
  simp only [complete, hst, closed, Option.getD_some]

theorem setFree_held (h : m.Sound) (ht : m.slotHolder? model = some t) (now : Time) :
    m.setFree now model = ⟨(m.close t .completed now).1, true,
        [.complete t model .completed none now]⟩ ∧
      Frees t model .completed m (m.close t .completed now).1 := by
  obtain ⟨s, hs, hst, hmodel⟩ := h.accounted.mem_holders.mp (slotHolder?_mem ht)
  refine ⟨?_, frees_close h hs hst hmodel .completed now⟩
  simp only [setFree, ht]

theorem cancel_queued (hst : m.status? t = some .queued) :
    (m.cancel t).2 = true ∧ (m.cancel t).1.status? t = none := by
  obtain ⟨s, hs, hstatus⟩ := Option.map_eq_some_iff.mp hst
  simp only [cancel, hs, hstatus, if_true]
  refine ⟨trivial, ?_⟩
  rw [status?, Table.get?_erase, if_pos rfl]
  rfl

end Call

section Run

variable {α : Type} [OfScientific α] [Add α] [Sub α] [Mul α] [LE α] [LT α]
  [DecidableLE α] [DecidableLT α] {strategy : Strategy α} {settings : ManagerSettings}
  {start : Time} {s : Clocked Manager} {turns : List (Turn (Clocked Manager) Call Answer)}

theorem perform_of_refused {c : Call} {answer : Answer} (h : Refused s.state c answer) :
    c.perform strategy settings s = .ok (.answerOnly s answer) := by
  cases h with
  | noCandidates => rfl
  | unknown hst =>
    simp only [Call.perform, Call.run, complete, hst]
    rfl
  | @wrongStatus _ _ status hst other =>
    cases status with
    | scheduled => exact absurd rfl other
    | queued | completed | failed | expired =>
      simp only [Call.perform, Call.run, complete, hst]
      rfl
  | @notQueued t other =>
    have unchanged : s.state.cancel t = (s.state, false) := by
      unfold cancel
      split
      next st hs => rw [if_neg fun hst => other (by rw [status?, hs, Option.map_some, hst])]
      next => rfl
    simp only [Call.perform, Call.run, unchanged]
    rfl
  | notHeld none_holds =>
    simp only [Call.perform, Call.run, setFree, slotHolder?_eq_none_iff.mpr none_holds]
    rfl
  | noResult hr =>
    have unchanged := SortedMap.erase_of_get? hr
    simp only [Call.perform, Call.run, takeResult, unchanged, hr]
    rfl

/-- Of the scheduled tickets, those without a result are those whose result was handed out. -/
theorem handed_iff_no_result (run : Run (Call.perform strategy settings) ⟨start, empty⟩ turns s)
    {t : Ticket} (hst : s.state.status? t = some .scheduled) :
    s.state.results.get? t = none ↔ t ∈ handedTickets turns := by
  refine ⟨?_, fun ht => ((past run).spent t ht).2⟩
  induction run with
  | start => cases hst
  | @next turns s c e run hc ih =>
    intro none_left
    have sound := sound_of_run run sound_empty
    have step := step_perform sound hc
    have handed : handedTickets (turns ++ [⟨s, c, e⟩]) = handedTickets turns ++ e.answer.handed := by
      simp [handedTickets, Turn.answer]
    rw [handed, List.mem_append]
    have passage := step.passage t
    rw [status_standing] at hst
    have none_left : (e.state.state.standing t).2 = none := none_left
    by_cases same : e.state.state.standing t = s.state.standing t
    · rw [same] at hst none_left
      exact Or.inl (ih (by rw [status_standing, hst]) none_left)
    · -- a ticket that comes to be scheduled has its result, so this one was handed out just now
      refine Or.inr ?_
      generalize s.state.standing t = before at passage same
      generalize e.state.state.standing t = after at passage same hst none_left
      generalize e.answer = answer at passage ⊢
      cases passage with
      | stays => exact absurd rfl same
      | claimed => exact Answer.mem_handed.mpr ⟨_, rfl⟩
      | scheduled => cases none_left
      | @completed outcome => cases outcome <;> cases hst
      | issued | expired | forgotten | freed | orphaned | cancelled => cases hst

/-- Wherever a run has led, a call that is refused leaves everything as it was and reports nothing. Every
other request is let in and queued, a scheduled ticket can be completed, a queued one cancelled, a result
that waits claimed, and a slot that is held taken back. Completing a ticket and taking a slot back free
one slot, of one ticket; a slot is taken back from the lowest of its holders whose results were handed
out, and else from the lowest of all. -/
theorem refused_or_granted (run : Run (Call.perform strategy settings) ⟨start, empty⟩ turns s) :
    (∀ c answer, Refused s.state c answer →
      c.perform strategy settings s = .ok (.answerOnly s answer)) ∧
    (∀ payload candidates, candidates ≠ [] →
      ∃ e, (Call.add payload candidates).perform strategy settings s = .ok e ∧
        e.answer = .admitted (.ok (s.state.issued + 1)) ∧
        s.state.status? (s.state.issued + 1) = none ∧
        e.state.state.status? (s.state.issued + 1) = some .queued) ∧
    (∀ t outcome, s.state.status? t = some .scheduled → ∃ e model,
      (Call.complete t outcome).perform strategy settings s = .ok e ∧
        e.answer = .completed (.ok outcome.status) ∧
        e.events = [.complete t model outcome.status outcome.error s.now] ∧
        Frees t model outcome.status s.state e.state.state) ∧
    (∀ t, s.state.status? t = some .queued →
      ∃ e, (Call.cancel t).perform strategy settings s = .ok e ∧
        e.answer = .cancelled true ∧ e.state.state.status? t = none) ∧
    (∀ model x, s.state.slotOf x = some model → ∃ e t,
      (Call.setFree model).perform strategy settings s = .ok e ∧
        e.answer = .freed true ∧ e.events = [.complete t model .completed none s.now] ∧
        NextFreed s.state (· ∈ handedTickets turns) model t ∧
        Frees t model .completed s.state e.state.state) ∧
    ∀ t r, s.state.results.get? t = some r →
      ∃ e, (Call.takeResult t).perform strategy settings s = .ok e ∧
        e.answer = .claimed (some (t, r)) ∧ e.state.state.results.get? t = none := by
  have sound := sound_of_run run sound_empty
  refine ⟨fun _ _ => perform_of_refused, ?_, ?_, ?_, ?_, ?_⟩
  · intro payload candidates given
    obtain ⟨answered, new, adds⟩ := adds sound settings s.now payload given
    refine ⟨_, rfl, congrArg Answer.admitted answered, ?_, ?_⟩
    · rw [status?, sound.get?_of_lt (Nat.lt_succ_self _)]
      rfl
    · exact congrArg (Option.map TicketState.status) ((adds.tickets _).trans (if_pos rfl))
  · intro t outcome hst
    obtain ⟨model, _, completed, frees⟩ := complete_scheduled sound hst s.now outcome
    refine ⟨_, model, rfl, ?_⟩
    rw [completed]
    exact ⟨rfl, rfl, frees⟩
  · intro t hst
    obtain ⟨found, gone⟩ := cancel_queued hst
    exact ⟨_, rfl, congrArg Answer.cancelled found, gone⟩
  · intro model x hx
    obtain ⟨t, ht⟩ : ∃ t, s.state.slotHolder? model = some t := by
      refine Option.ne_none_iff_exists'.mp fun none_holds => ?_
      exact slotHolder?_eq_none_iff.mp none_holds x hx
    obtain ⟨freed, frees⟩ := setFree_held sound ht s.now
    refine ⟨_, t, rfl, ?_⟩
    rw [freed]
    refine ⟨rfl, rfl, (nextFreed_of_slotHolder? ht).congr fun x hx => ?_, frees⟩
    obtain ⟨st, hs, hst, _⟩ := sound.accounted.mem_holders.mp (mem_holders_iff_slotOf.mpr hx)
    exact handed_iff_no_result run (by rw [status?, hs, Option.map_some, hst])
  · intro t r hr
    refine ⟨_, rfl, ?_, ?_⟩
    · change Answer.claimed ((s.state.results.get? t).map fun r => (t, r)) = _
      rw [hr]
      rfl
    · exact (SortedMap.get?_erase ..).trans (if_pos rfl)

/-- Two tickets hold the slots of a model, and the result of the second was claimed: its slot is taken
back. A third one, still queued, cannot be completed. -/
theorem claimed_holder_goes_first : ∃ turns s,
    Run (Call.perform (.firstCome : Strategy Double) ⟨seconds 60, 2⟩) ⟨0, empty⟩ turns s ∧
      (∃ e, (Call.setFree "m").perform (.firstCome : Strategy Double) ⟨seconds 60, 2⟩ s = .ok e ∧
        Frees 2 "m" .completed s.state e.state.state) ∧
      (Call.complete 3 .success).perform (.firstCome : Strategy Double) ⟨seconds 60, 2⟩ s =
        .ok (.answerOnly s (.completed (.error (.wrongStatus 3 .queued)))) := by
  let request : Call := .add "" [⟨"m", "p", 1, .normal⟩]
  have played : ((play (Call.perform (.firstCome : Strategy Double) ⟨seconds 60, 2⟩)
      [request, request, request, .tick .unguarded, .tick .unguarded, .takeResult 2]
      ⟨0, empty⟩).toOption.map fun r => (handedTickets r.1, r.2.state.slotOf 2,
        r.2.state.status? 3)) = some ([2], some "m", some .queued) := by decide +kernel
  obtain ⟨turns, s, run, hview⟩ := Run.exists_of_play played
  simp only [Prod.mk.injEq] at hview
  obtain ⟨handed, holds, waits⟩ := hview
  obtain ⟨refused, _, _, _, freed, _⟩ := refused_or_granted run
  obtain ⟨e, t, performed, _, _, next, frees⟩ := freed "m" 2 holds
  have claimed := (next.claimed_first 2 holds (by simp [handed])).1
  obtain rfl : t = 2 := by simpa [handed] using claimed
  exact ⟨turns, s, run, ⟨e, performed, frees⟩, refused _ _ (.wrongStatus waits (by decide))⟩

end Run

end Manager

end InferenceDispatch
