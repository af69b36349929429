import InferenceDispatch.Monitoring.Metrics
import InferenceDispatch.Number.Double
import InferenceDispatch.Proofs.Manager.History

namespace InferenceDispatch

namespace Metrics

variable (x : Metrics)

theorem observeAll_append (es es' : List Event) :
    x.observeAll (es ++ es') = (x.observeAll es).observeAll es' := List.foldl_append

theorem inFlight_complete (t : Ticket) (model : String) {status : Status} (error : Option String)
    (now : Time) (terminal : status.isTerminal) :
    (x.observe (.complete t model status error now)).inFlight = x.inFlight - 1 := by
  cases status with
  | queued | scheduled => cases terminal
  | completed | failed | expired => rfl

end Metrics

/-- The gauge shows no more requests than there are slots held, and at most `lag` fewer. -/
structure Behind (gauge held lag : Nat) : Prop where
  le : gauge ≤ held
  lag : held ≤ gauge + lag

namespace Behind

variable {gauge held lag : Nat}

theorem up (b : Behind gauge held lag) : Behind (gauge + 1) (held + 1) lag := by
  obtain ⟨hle, hlag⟩ := b
  exact ⟨by omega, by omega⟩

theorem down (b : Behind gauge (held + 1) lag) : Behind (gauge - 1) held lag := by
  obtain ⟨hle, hlag⟩ := b
  exact ⟨by omega, by omega⟩

theorem fall (b : Behind gauge held lag) (n : Nat) : Behind (gauge - n) held (lag + n) := by
  obtain ⟨hle, hlag⟩ := b
  exact ⟨by omega, by omega⟩

end Behind

namespace Manager

def slotHolders (m : Manager) : List Ticket :=
  (m.tickets.entries.filter fun e => e.2.holdsSlot).map Prod.fst

namespace Answer

/-- The tickets that a withdrawal failed. -/
def failed : Answer → List Ticket
  | withdrawn ts => ts
  | _ => []

end Answer

def failedByWithdrawal (turns : List (Turn (Clocked Manager) Call Answer)) : List Ticket :=
  turns.flatMap fun turn => turn.answer.failed

def reported (turns : List (Turn (Clocked Manager) Call Answer)) : List Event :=
  turns.flatMap Turn.events

section Holders

variable {m m' : Manager} {t : Ticket}

theorem nodup_slotHolders (m : Manager) : m.slotHolders.Nodup :=
  m.tickets.nodup.sublist (List.filter_sublist.map _)

theorem mem_slotHolders_iff : t ∈ m.slotHolders ↔
    ∃ s, m.tickets.get? t = some s ∧ s.holdsSlot = true := by
  simp only [slotHolders, List.mem_map, List.mem_filter]
  constructor
  · rintro ⟨⟨_, s⟩, ⟨hm, hs⟩, rfl⟩
    exact ⟨s, Table.get?_eq_some_iff.mpr hm, hs⟩
  · rintro ⟨s, hg, hs⟩
    exact ⟨(t, s), ⟨Table.get?_eq_some_iff.mp hg, hs⟩, rfl⟩

theorem Accounted.mem_slotHolders (h : m.Accounted) :
    t ∈ m.slotHolders ↔ m.status? t = some .scheduled := by
  rw [mem_slotHolders_iff, status?, Option.map_eq_some_iff]
  exact exists_congr fun s => and_congr_right fun hs => (h.states t s hs).holds

theorem length_slotHolders_congr (h : m.Accounted) (h' : m'.Accounted)
    (same : ∀ t, m'.status? t = some .scheduled ↔ m.status? t = some .scheduled) :
    m'.slotHolders.length = m.slotHolders.length :=
  length_eq_of_mem_iff m.nodup_slotHolders m'.nodup_slotHolders fun t => by
    rw [h'.mem_slotHolders, h.mem_slotHolders, same]

theorem length_slotHolders_succ (h : m.Accounted) (h' : m'.Accounted)
    (new : m.status? t ≠ some .scheduled)
    (same : ∀ x, m'.status? x = some .scheduled ↔ x = t ∨ m.status? x = some .scheduled) :
    m'.slotHolders.length = m.slotHolders.length + 1 :=
  length_eq_succ_of_mem_iff m.nodup_slotHolders m'.nodup_slotHolders
    (mt h.mem_slotHolders.mp new) fun t => by rw [h'.mem_slotHolders, h.mem_slotHolders, same]

end Holders

section Gauge

variable {x : Metrics} {lag : Nat} {m : Manager} {t : Ticket} {s : TicketState} {status : Status}
  {now : Time}

/-- A ticket that is closed and reported takes the gauge down with it. -/
theorem behind_close (h : m.Sound) (hs : m.tickets.get? t = some s) (hst : s.status = .scheduled)
    (terminal : status.isTerminal) (model : String) (error : Option String)
    (b : Behind x.inFlight m.slotHolders.length lag) :
    Behind (x.observe (.complete t model status error now)).inFlight
      (m.close t status now).1.slotHolders.length lag := by
  have sound := sound_close h hs hst terminal now
  have closed : (m.close t status now).1.status? t = some status := by
    rw [Manager.status?, get?_close h hs hst, if_pos rfl]
    rfl
  have one_more : m.slotHolders.length = (m.close t status now).1.slotHolders.length + 1 := by
    refine length_slotHolders_succ (t := t) sound.accounted h.accounted ?_ fun y => ?_
    · rw [closed]
      rintro heq
      rw [Option.some.inj heq] at terminal
      cases terminal
    · by_cases hy : y = t
      · simp [hy, Manager.status?, hs, hst]
      · rw [Manager.status?, Manager.status?, get?_close h hs hst, if_neg hy]
        simp [hy]
  rw [x.inFlight_complete t model error now terminal]
  exact (one_more ▸ b).down

theorem expireResults_induct {P : Effect Manager Unit → Prop} (h : m.Sound) {ts : List Ticket}
    (nodup : ts.Nodup) (pending : ∀ t ∈ ts, ∃ r, m.results.get? t = some r) (now : Time)
    (start : P (.answerOnly m ()))
    (next : ∀ e t r, e.state.Sound → e.state.results.get? t = some r → P e →
      P (e.andThen fun _ m => expireResult now m t)) : P (expireResults now ts m) := by
  unfold expireResults
  generalize he : Effect.answerOnly m () = e at start
  obtain rfl : m = e.state := he ▸ rfl
  clear he
  induction ts generalizing e with
  | nil => exact start
  | cons t ts ih =>
    obtain ⟨ht, nodup⟩ := List.nodup_cons.mp nodup
    obtain ⟨r, hr⟩ := pending t List.mem_cons_self
    obtain ⟨s, hs, hst⟩ := h.scheduled_of_result hr
    refine ih nodup (e.andThen fun _ m => expireResult now m t) (next e t r h hr start)
      (sound_close h hs hst rfl now) ?_
    intro y hy
    have hyt : y ≠ t := fun hyt => ht (hyt ▸ hy)
    obtain ⟨r', hr'⟩ := pending y (List.mem_cons_of_mem _ hy)
    exact ⟨r', (result_close h hs hst .expired now y).trans (by rw [if_neg hyt, hr'])⟩

theorem events_expireResult (h : m.Sound) {r : Result} (hr : m.results.get? t = some r)
    (now : Time) :
    (expireResult now m t).events = [.complete t r.key.model .expired none now] := by
  obtain ⟨_, s, hs, hst, hmodel⟩ := h.accounted.results t r hr
  obtain ⟨model, hmodel', heq⟩ := close_eq h hs hst .expired now
  obtain rfl := Option.some.inj (hmodel'.symm.trans hmodel)
  rw [expireResult, heq]
  rfl

theorem behind_expire (settings : ManagerSettings) (now : Time) (h : m.Sound)
    (b : Behind x.inFlight m.slotHolders.length lag) :
    Behind (x.observeAll (m.expire settings now).events).inFlight
      (m.expire settings now).state.slotHolders.length lag := by
  have swept := expireResults_induct
    (P := fun e => Behind (x.observeAll e.events).inFlight e.state.slotHolders.length lag)
    h (nodup_staleResults m settings.resultLifetime now) (fun t ht => mem_staleResults ht) now b
    (by
      intro e t r sound hr b
      obtain ⟨s, hs, hst⟩ := sound.scheduled_of_result hr
      rw [Effect.events_andThen, events_expireResult sound hr now, Metrics.observeAll_append]
      exact behind_close sound hs hst (rfl : Status.expired.isTerminal = true) r.key.model none b)
  obtain ⟨sound, _⟩ := expireResults_spec h (nodup_staleResults m settings.resultLifetime now)
    (fun t ht => mem_staleResults ht) now
  have forgotten := sound_forget sound settings.resultLifetime now
  -- tickets that are forgotten have ended, so they hold no slot
  have same := length_slotHolders_congr sound.accounted forgotten.accounted fun y => by
    rw [Manager.status?, Manager.status?, Option.map_eq_some_iff, Option.map_eq_some_iff]
    refine exists_congr fun s => ?_
    rw [get?_forget]
    constructor
    · rintro ⟨⟨hs, _⟩, hst⟩
      exact ⟨hs, hst⟩
    · rintro ⟨hs, hst⟩
      have running : s.status.isTerminal = false := by rw [hst]; rfl
      exact ⟨⟨hs, sound.accounted.isRemembered hs running _ _⟩, hst⟩
  have hstate : (m.expire settings now).state.slotHolders.length =
      (expireResults now (m.staleResults settings.resultLifetime now) m).state.slotHolders.length :=
    same
  rw [hstate]
  exact swept

variable {α : Type} [OfScientific α] [Add α] [Sub α] [Mul α] [LE α] [LT α]
  [DecidableLE α] [DecidableLT α] {strategy : Strategy α} {gate : Gate}

theorem behind_assign {w : Scheduled} {scheduler : Scheduler} (h : m.Sound)
    (hw : m.scheduler.schedule strategy gate m.workTable now = some (w, scheduler))
    (b : Behind x.inFlight m.slotHolders.length lag) :
    Behind (x.observeAll ({ m with scheduler }.assign now w).events).inFlight
      ({ m with scheduler }.assign now w).state.slotHolders.length lag := by
  obtain ⟨s, hs, hst, _⟩ := picked_queued h hw
  have one_more : ({ m with scheduler }.assign now w).state.slotHolders.length =
      m.slotHolders.length + 1 := by
    refine length_slotHolders_succ (t := w.task.ticket) h.accounted (sound_assign h hw).accounted ?_
      fun y => ?_
    · simp [Manager.status?, hs, hst]
    · rw [Manager.status?, Manager.status?, get?_assign h hw]
      by_cases hy : y = w.task.ticket
      · simp [hy, hs]
      · simp [hy]
  have up : (x.observeAll ({ m with scheduler }.assign now w).events).inFlight = x.inFlight + 1 := rfl
  rw [one_more, up]
  exact b.up

theorem behind_tick (settings : ManagerSettings) (h : m.Sound)
    (b : Behind x.inFlight m.slotHolders.length lag) :
    Behind (x.observeAll (m.tick strategy gate settings now).events).inFlight
      (m.tick strategy gate settings now).state.slotHolders.length lag := by
  obtain ⟨sound, _⟩ := expire_spec settings now h
  have swept := behind_expire settings now h b
  unfold tick
  rw [Effect.events_andThen, Effect.state_andThen]
  split
  next => exact (List.append_nil (m.expire settings now).events).symm ▸ swept
  next =>
    split
    next => exact (List.append_nil (m.expire settings now).events).symm ▸ swept
    next w scheduler hw =>
      rw [Metrics.observeAll_append]
      exact behind_assign sound hw swept

/-- Withdrawing a provider takes the gauge down once for every ticket that fails. -/
theorem inFlight_withdraw (x : Metrics) (m : Manager) (now : Time) (provider : String) :
    (x.observeAll (m.withdraw now provider).events).inFlight =
      x.inFlight - (m.withdraw now provider).answer.length := by
  unfold withdraw
  simp only
  generalize (m.scheduler.withdraw provider).2 = orphans
  generalize hstart : Effect.answerOnly { m with scheduler := (m.scheduler.withdraw provider).1 }
    ([] : List Ticket) = e
  have counted : (x.observeAll e.events).inFlight = x.inFlight - e.answer.length := hstart ▸ rfl
  clear hstart
  induction orphans generalizing e with
  | nil => exact counted
  | cons task tasks ih =>
    refine ih _ ?_
    rw [Effect.events_andThen, Effect.answer_andThen, Metrics.observeAll_append]
    unfold orphan
    split
    next =>
      refine counted.trans ?_
      simp [Effect.map, Effect.answerOnly]
    next s hs =>
      have down := (x.observeAll e.events).inFlight_complete task.ticket
        ((task.candidates.head?.map Candidate.model).getD "") (some "provider removed") now
        (rfl : Status.failed.isTerminal = true)
      refine down.trans ?_
      rw [counted, Nat.sub_sub]
      simp [Effect.map]

end Gauge

/-- Whether a call can give slots or take them back. -/
def Call.handlesSlots : Call → Bool
  | tick _ | setFree _ | complete .. => true
  | _ => false

theorem Step.slotHolders {m m' : Manager} {c : Call} {answer : Answer} (step : Step m c answer m')
    (h : m.Sound) (hc : c.handlesSlots = false) :
    m'.slotHolders.length = m.slotHolders.length := by
  refine length_slotHolders_congr h.accounted step.sound.accounted fun t => ?_
  have hp := step.passage t
  rw [status_standing, status_standing]
  generalize m.standing t = before at hp
  generalize m'.standing t = after at hp
  cases hp with
  | stays | claimed => exact Iff.rfl
  | issued | orphaned | cancelled => simp
  | scheduled | expired | forgotten | freed | completed => cases hc

section Run

variable {α : Type} [OfScientific α] [Add α] [Sub α] [Mul α] [LE α] [LT α]
  [DecidableLE α] [DecidableLT α] {strategy : Strategy α} {settings : ManagerSettings}
  {start : Time} {s : Clocked Manager} {c : Call} {e : Effect (Clocked Manager) Answer}
  {turns : List (Turn (Clocked Manager) Call Answer)} {x : Metrics} {lag : Nat}

theorem inFlight_perform (hc : c.perform strategy settings s = .ok e)
    (handles : c.handlesSlots = false) :
    (x.observeAll e.events).inFlight = x.inFlight - e.answer.failed.length := by
  cases c with
  | tick | setFree | complete => cases handles
  | withdraw provider => cases hc; exact inFlight_withdraw x s.state s.now provider
  | add payload candidates =>
    cases hc
    simp only [Effect.map, add]
    split <;> rfl
  | move entry tier =>
    obtain ⟨_, hrun, rfl⟩ := except_map_eq_ok_iff.mp hc
    obtain ⟨_, _, rfl⟩ := except_map_eq_ok_iff.mp hrun
    rfl
  | registerModel | getResult | takeResult | look | cancel | advance => cases hc; rfl

theorem behind_perform (h : s.state.Sound) (hc : c.perform strategy settings s = .ok e)
    (b : Behind x.inFlight s.state.slotHolders.length lag) :
    Behind (x.observeAll e.events).inFlight e.state.state.slotHolders.length
      (lag + e.answer.failed.length) := by
  cases handles : c.handlesSlots with
  | false =>
    have gauge := inFlight_perform (x := x) hc handles
    have slots := (step_perform h hc).slotHolders h handles
    rw [gauge, slots]
    exact b.fall _
  | true =>
    cases c with
    | tick gate => cases hc; exact behind_tick settings h b
    | setFree model =>
      cases hc
      simp only [Effect.map, setFree]
      split
      next => exact b
      next t ht =>
        obtain ⟨st, hs, hst, _⟩ := h.accounted.mem_holders.mp (slotHolder?_mem ht)
        exact behind_close h hs hst (rfl : Status.completed.isTerminal = true) model none b
    | complete t outcome =>
      cases hc
      simp only [Effect.map, complete]
      split
      next => exact b
      next hst =>
        obtain ⟨st, hs, hst⟩ := Option.map_eq_some_iff.mp hst
        have terminal : outcome.status.isTerminal = true := by cases outcome <;> rfl
        exact behind_close h hs hst terminal ((s.state.close t outcome.status s.now).2.getD "")
          outcome.error b
      next => exact b
    | registerModel | add | getResult | takeResult | look | withdraw | cancel | move | advance =>
      cases handles

theorem behind_run (run : Run (Call.perform strategy settings) ⟨start, empty⟩ turns s) :
    Behind (Metrics.empty.observeAll (reported turns)).inFlight s.state.slotHolders.length
      (failedByWithdrawal turns).length := by
  induction run with
  | start => exact ⟨Nat.le_refl _, Nat.le_refl _⟩
  | next run hc ih =>
    have b := behind_perform (sound_of_run run sound_empty) hc ih
    simpa [reported, failedByWithdrawal, Metrics.observeAll_append, Turn.events, Turn.answer] using b

/-- Over any run, the gauge shows at most as many requests as hold a slot, and falls short of them by no
more than the tickets that withdrawals failed; if there were none, it is exact. A withdrawal takes it down
by the tickets it fails, while as many tickets hold a slot as before. -/
theorem gauge_falls_short_by_withdrawals
    (run : Run (Call.perform strategy settings) ⟨start, empty⟩ turns s) :
    let gauge := (Metrics.empty.observeAll (reported turns)).inFlight
    gauge ≤ s.state.slotHolders.length ∧
    s.state.slotHolders.length ≤ gauge + (failedByWithdrawal turns).length ∧
    (failedByWithdrawal turns = [] → gauge = s.state.slotHolders.length) ∧
    ∀ turn ∈ turns, ∀ provider, turn.call = .withdraw provider →
      (∀ x : Metrics, (x.observeAll turn.events).inFlight =
        x.inFlight - turn.answer.failed.length) ∧
      turn.after.state.slotHolders.length = turn.before.state.slotHolders.length := by
  obtain ⟨hle, hlag⟩ := behind_run run
  refine ⟨hle, hlag, fun none_failed => ?_, fun turn ht provider hcall => ?_⟩
  · rw [none_failed] at hlag
    exact Nat.le_antisymm hle hlag
  · obtain ⟨sound, hc⟩ := call_of_mem run sound_empty ht
    have handles : turn.call.handlesSlots = false := by rw [hcall]; rfl
    exact ⟨fun x => inFlight_perform hc handles, (step_perform sound hc).slotHolders sound handles⟩

/-- Without withdrawals the gauge counts the slots that are held. -/
theorem gauge_counts_held_slots : ∃ turns s,
    Run (Call.perform (.firstCome : Strategy Double) ⟨seconds 60, 1⟩) ⟨0, empty⟩ turns s ∧
      (Metrics.empty.observeAll (reported turns)).inFlight = 1 ∧ s.state.slotHolders.length = 1 := by
  let request : Call := .add "" [⟨"m", "p", 1, .normal⟩]
  have played : ((play (Call.perform (.firstCome : Strategy Double) ⟨seconds 60, 1⟩)
      [request, request, .tick .unguarded, .complete 1 .success, .tick .unguarded]
      ⟨0, empty⟩).toOption.map fun r =>
        (r.2.state.slotHolders.length, failedByWithdrawal r.1)) = some (1, []) := by decide +kernel
  obtain ⟨turns, s, run, hview⟩ := Run.exists_of_play played
  obtain ⟨held, none_failed⟩ := Prod.mk.inj hview
  have exact := (gauge_falls_short_by_withdrawals run).2.2.1 none_failed
  exact ⟨turns, s, run, exact.trans held, held⟩

/-- A request that is failed while it is queued takes the place of the one that holds a slot: the gauge
shows none. -/
theorem gauge_misses_held_slot : ∃ turns s,
    Run (Call.perform (.firstCome : Strategy Double) ⟨seconds 60, 1⟩) ⟨0, empty⟩ turns s ∧
      (Metrics.empty.observeAll (reported turns)).inFlight = 0 ∧ s.state.slotHolders = [1] ∧
      failedByWithdrawal turns = [2] := by
  have played : ((play (Call.perform (.firstCome : Strategy Double) ⟨seconds 60, 1⟩)
      [.add "" [⟨"m", "p", 1, .normal⟩], .tick .unguarded, .add "" [⟨"n", "q", 1, .normal⟩],
        .withdraw "q"] ⟨0, empty⟩).toOption.map fun r =>
          ((Metrics.empty.observeAll (reported r.1)).inFlight, r.2.state.slotHolders,
            failedByWithdrawal r.1)) = some (0, [1], [2]) := by decide +kernel
  obtain ⟨turns, s, run, hview⟩ := Run.exists_of_play played
  obtain ⟨gauge, hview⟩ := Prod.mk.inj hview
  obtain ⟨held, failed⟩ := Prod.mk.inj hview
  exact ⟨turns, s, run, gauge, held, failed⟩

end Run

end Manager

end InferenceDispatch
