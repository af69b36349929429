import InferenceDispatch.Proofs.Manager.Calls
import InferenceDispatch.Proofs.Manager.Sound

namespace InferenceDispatch

def TicketState.ended (s : TicketState) (status : Status) (now : Time) : TicketState :=
  { s with status, finishedAt := some now, holdsSlot := false }

theorem TicketState.sound_ended (s : TicketState) {status : Status} (terminal : status.isTerminal)
    (now : Time) : (s.ended status now).Sound where
  holds := by
    constructor
    · intro hh
      cases hh
    · intro hst
      obtain rfl : status = .scheduled := hst
      cases terminal
  model := by
    intro hst
    obtain rfl : status = .scheduled := hst
    cases terminal
  finished := by simp [ended, terminal]

namespace Manager

variable {m : Manager} {t : Ticket} {s : TicketState} {status : Status} {now : Time}

theorem standing_eq (hs : m.tickets.get? t = some s) :
    m.standing t = (some (s.status, s.model), m.results.get? t) := by
  rw [standing, hs, Option.map_some]

section Close

variable (h : m.Sound) (hs : m.tickets.get? t = some s) (hst : s.status = .scheduled)
include h hs hst

theorem close_eq (status : Status) (now : Time) : ∃ model, s.model = some model ∧
    m.close t status now = ({ m with
      tickets := m.tickets.insert t (s.ended status now)
      results := m.results.erase t
      slots := m.slots.release model }, some model) := by
  have sound := h.accounted.states t s hs
  obtain ⟨model, hmodel⟩ := sound.model hst
  refine ⟨model, hmodel, ?_⟩
  unfold close finish
  simp only [hs, hmodel, sound.holds.mpr hst, ↓reduceIte, TicketState.ended]

theorem get?_close (status : Status) (now : Time) (x : Ticket) :
    (m.close t status now).1.tickets.get? x =
      if x = t then some (s.ended status now) else m.tickets.get? x := by
  obtain ⟨model, _, heq⟩ := close_eq h hs hst status now
  rw [heq, Table.get?_insert]

theorem result_close (status : Status) (now : Time) (x : Ticket) :
    (m.close t status now).1.results.get? x = if x = t then none else m.results.get? x := by
  obtain ⟨model, _, heq⟩ := close_eq h hs hst status now
  rw [heq, SortedMap.get?_erase]

theorem scheduler_close (status : Status) (now : Time) :
    (m.close t status now).1.scheduler = m.scheduler ∧
      (m.close t status now).1.issued = m.issued := by
  obtain ⟨model, _, heq⟩ := close_eq h hs hst status now
  rw [heq]
  exact ⟨rfl, rfl⟩

theorem mem_holders_close (status : Status) (now : Time) (other : String) (x : Ticket) :
    x ∈ (m.close t status now).1.holders other ↔ x ≠ t ∧ x ∈ m.holders other := by
  rw [Manager.mem_holders, Manager.mem_holders, get?_close h hs hst]
  split
  next hx => simp [hx, TicketState.ended]
  next hx => simp [hx]

theorem busy_close (status : Status) (now : Time) (other : String) :
    (m.close t status now).1.slots.busy other = ((m.close t status now).1.holders other).length := by
  obtain ⟨model, hmodel, heq⟩ := close_eq h hs hst status now
  have mem := mem_holders_close h hs hst status now other
  have holder : t ∈ m.holders other ↔ other = model := by
    rw [h.accounted.mem_holders]
    simp [hs, hst, hmodel, eq_comm]
  have hbusy : (m.close t status now).1.slots.busy other =
      if other = model then m.slots.busy other - 1 else m.slots.busy other := by
    rw [heq, SlotTable.busy_release]
  rw [hbusy, h.accounted.busy]
  split
  next ho =>
    have one_more : (m.holders other).length =
        ((m.close t status now).1.holders other).length + 1 := by
      refine length_holders_succ (fun hm => ((mem t).mp hm).1 rfl) fun x => ?_
      rw [mem]
      by_cases hx : x = t
      · simp [hx, holder.mpr ho]
      · simp [hx]
    omega
  next ho =>
    refine (length_holders_congr fun x => ?_).symm
    rw [mem, and_iff_right_iff_imp]
    rintro hx rfl
    exact ho (holder.mp hx)

theorem accounted_close (terminal : status.isTerminal) (now : Time) :
    (m.close t status now).1.Accounted where
  states := by
    intro x sx hx
    rw [get?_close h hs hst] at hx
    split at hx
    next => exact Option.some.inj hx ▸ s.sound_ended terminal now
    next => exact h.accounted.states x sx hx
  results := by
    intro x r hr
    rw [result_close h hs hst] at hr
    split at hr
    next => cases hr
    next hx =>
      rw [get?_close h hs hst, if_neg hx]
      exact h.accounted.results x r hr
  busy := busy_close h hs hst status now

theorem linked_close (terminal : status.isTerminal) (now : Time) :
    (m.close t status now).1.Linked := by
  refine h.linked.keep (scheduler_close h hs hst status now).1 fun x => ?_
  unfold waitingTask
  rw [get?_close h hs hst]
  split
  next hx =>
    have ended : status ≠ .queued := by
      rintro rfl
      cases terminal
    simp [hx, hs, hst, TicketState.ended, ended]
  next => rfl

theorem sound_close (terminal : status.isTerminal) (now : Time) :
    (m.close t status now).1.Sound where
  known := by
    intro x sx hx
    rw [(scheduler_close h hs hst status now).2]
    rw [get?_close h hs hst] at hx
    split at hx
    next hxt => exact hxt ▸ h.known t s hs
    next => exact h.known x sx hx
  linked := linked_close h hs hst terminal now
  accounted := accounted_close h hs hst terminal now

theorem standing_close (status : Status) (now : Time) (x : Ticket) :
    (m.close t status now).1.standing x =
      if x = t then (some (status, s.model), none) else m.standing x := by
  unfold standing
  rw [get?_close h hs hst, result_close h hs hst]
  split <;> rfl

end Close

section Expire

/-- How a ticket may stand after what is stale has expired. -/
inductive Lapse : (before after : Standing) → Prop
  | stays {st : Standing} : Lapse st st
  | expired {model? : Option String} {r : Result} :
      Lapse (some (.scheduled, model?), some r) (some (.expired, model?), none)
  | forgotten {ended : Status} {model? : Option String} : ended.isTerminal →
      Lapse (some (ended, model?), none) (none, none)

theorem Sound.scheduled_of_result (h : m.Sound) {r : Result} (hr : m.results.get? t = some r) :
    ∃ s, m.tickets.get? t = some s ∧ s.status = .scheduled := by
  obtain ⟨_, s, hs, hst, _⟩ := h.accounted.results t r hr
  exact ⟨s, hs, hst⟩

/-- The results that have waited longer than `lifetime`, with their tickets. -/
def overdue (m : Manager) (lifetime now : Time) : List (Ticket × Result) :=
  m.results.entries.filter fun e => lifetime < elapsed e.2.readyAt now

theorem mem_overdue {r : Result} {lifetime : Time} : (t, r) ∈ m.overdue lifetime now ↔
    m.results.get? t = some r ∧ lifetime < elapsed r.readyAt now := by
  rw [overdue, List.mem_filter, decide_eq_true_eq, SortedMap.get?_eq_some_iff]

theorem mem_staleResults_iff {lifetime : Time} :
    t ∈ m.staleResults lifetime now ↔ ∃ r, (t, r) ∈ m.overdue lifetime now :=
  List.mem_map.trans ⟨fun ⟨⟨_, r⟩, hm, ht⟩ => ⟨r, ht ▸ hm⟩, fun ⟨r, hm⟩ => ⟨(t, r), hm, rfl⟩⟩

theorem mem_staleResults {lifetime : Time} (ht : t ∈ m.staleResults lifetime now) :
    ∃ r, m.results.get? t = some r := by
  obtain ⟨r, ho⟩ := mem_staleResults_iff.mp ht
  exact ⟨r, (mem_overdue.mp ho).1⟩

theorem nodup_staleResults (m : Manager) (lifetime now : Time) :
    (m.staleResults lifetime now).Nodup :=
  m.results.nodup_keys.sublist (List.filter_sublist.map _)

theorem expireResults_cons (now : Time) (t : Ticket) (ts : List Ticket) (m : Manager) :
    expireResults now (t :: ts) m =
      (expireResult now m t).andThen fun _ m => expireResults now ts m := by
  have accumulated : ∀ (ts : List Ticket) (e : Effect Manager Unit),
      ts.foldl (fun e t => e.andThen fun _ m => expireResult now m t) e =
        e.andThen fun _ m => expireResults now ts m := by
    intro ts
    induction ts with
    | nil => simp [expireResults, Effect.andThen, Effect.answerOnly]
    | cons t ts ih =>
      intro e
      have later : ∀ m, expireResults now (t :: ts) m = ((Effect.answerOnly m ()).andThen fun _ m =>
        expireResult now m t).andThen fun _ m => expireResults now ts m := fun m => ih _
      rw [List.foldl_cons, ih]
      simp only [later, Effect.andThen, Effect.answerOnly, List.nil_append, List.append_assoc]
  exact accumulated ts (expireResult now m t)

/-- Dropping some of the results, each once, ends their tickets and no others. -/
theorem expireResults_spec (h : m.Sound) {ts : List Ticket} (nodup : ts.Nodup)
    (pending : ∀ t ∈ ts, ∃ r, m.results.get? t = some r) (now : Time) :
    let m' := (expireResults now ts m).state
    m'.Sound ∧ m'.issued = m.issued ∧ m'.scheduler = m.scheduler ∧
      (∀ x, m'.tickets.get? x = if x ∈ ts then
        (m.tickets.get? x).map fun s => s.ended .expired now else m.tickets.get? x) ∧
      ∀ x, m'.results.get? x = if x ∈ ts then none else m.results.get? x := by
  induction ts generalizing m with
  | nil => exact ⟨h, rfl, rfl, by simp [expireResults, Effect.answerOnly],
      by simp [expireResults, Effect.answerOnly]⟩
  | cons t ts ih =>
    obtain ⟨ht, nodup⟩ := List.nodup_cons.mp nodup
    obtain ⟨r, hr⟩ := pending t List.mem_cons_self
    obtain ⟨s, hs, hst⟩ := h.scheduled_of_result hr
    have hget := get?_close h hs hst .expired now
    have hres := result_close h hs hst .expired now
    obtain ⟨hscheduler, hissued⟩ := scheduler_close h hs hst .expired now
    obtain ⟨sound, issued, scheduler, tickets, results⟩ :=
      ih (sound_close h hs hst rfl now) nodup (by
        intro x hx
        have hxt : x ≠ t := fun hxt => ht (hxt ▸ hx)
        obtain ⟨r', hr'⟩ := pending x (List.mem_cons_of_mem _ hx)
        exact ⟨r', (hres x).trans (by rw [if_neg hxt, hr'])⟩)
    have closed : (expireResult now m t).state = (m.close t .expired now).1 := rfl
    rw [expireResults_cons, Effect.state_andThen, closed]
    refine ⟨sound, issued.trans hissued, scheduler.trans hscheduler, fun x => ?_, fun x => ?_⟩
    · rw [tickets, hget]
      by_cases hxt : x = t
      · simp [hxt, ht, hs]
      · simp [hxt]
    · rw [results, hres]
      by_cases hxt : x = t <;> simp [hxt]

theorem get?_forget (m : Manager) (lifetime now : Time) (x : Ticket) (s : TicketState) :
    (m.forget lifetime now).tickets.get? x = some s ↔
      m.tickets.get? x = some s ∧ s.isRemembered lifetime now = true := by
  rw [forget, Table.get?_filter, Option.filter_eq_some_iff]

theorem isRemembered_of_finished {s : TicketState} {at_ : Time} (h : s.finishedAt = some at_)
    (lifetime now : Time) : s.isRemembered lifetime now = decide (elapsed at_ now ≤ lifetime) := by
  rw [TicketState.isRemembered, h, Option.all_some]

theorem Accounted.isRemembered (h : m.Accounted) (hs : m.tickets.get? t = some s)
    (active : s.status.isTerminal = false) (lifetime now : Time) :
    s.isRemembered lifetime now = true := by
  rw [TicketState.isRemembered, (h.states t s hs).finished.mpr active, Option.all_none]

theorem sound_forget (h : m.Sound) (lifetime now : Time) : (m.forget lifetime now).Sound where
  known := fun x sx hx => h.known x sx ((get?_forget m lifetime now x sx).mp hx).1
  linked := by
    refine h.linked.keep rfl fun x => Option.ext fun task => ?_
    rw [waitingTask_eq_some, waitingTask_eq_some]
    refine exists_congr fun sx => ?_
    rw [get?_forget, and_assoc]
    refine and_congr_right fun hx => ?_
    rw [and_iff_right_iff_imp]
    rintro ⟨hst, _⟩
    exact h.accounted.isRemembered hx (by rw [hst]; rfl) lifetime now
  accounted := by
    refine h.accounted.keep ?_ ?_ (fun _ _ hr => hr) fun _ => rfl
    · intro x sx hx
      exact h.accounted.states x sx ((get?_forget m lifetime now x sx).mp hx).1
    · intro x sx hst
      rw [get?_forget, and_iff_left_iff_imp]
      intro hx
      exact h.accounted.isRemembered hx (by rw [hst]; rfl) lifetime now

theorem standing_forget_of_remembered {lifetime : Time} (hs : m.tickets.get? t = some s)
    (remembered : s.isRemembered lifetime now = true) :
    (m.forget lifetime now).standing t = m.standing t := by
  have kept := (get?_forget m lifetime now t s).mpr ⟨hs, remembered⟩
  unfold standing
  rw [kept, hs, forget]

theorem lapse_forget (h : m.Sound) (lifetime now : Time) (t : Ticket) :
    Lapse (m.standing t) ((m.forget lifetime now).standing t) := by
  have hforget := Table.get?_filter m.tickets (fun _ s => s.isRemembered lifetime now) t
  cases hs : m.tickets.get? t with
  | none =>
    have same : (m.forget lifetime now).standing t = m.standing t := by
      unfold standing forget
      rw [hforget, hs, Option.filter_none]
    exact same ▸ .stays
  | some s =>
    cases hr : s.isRemembered lifetime now with
    | true => exact standing_forget_of_remembered hs hr ▸ .stays
    | false =>
      have terminal : s.status.isTerminal = true := by
        by_contra active
        have := h.accounted.isRemembered hs (by simpa using active) lifetime now
        simp [hr] at this
      have no_result : m.results.get? t = none := h.accounted.result_none fun hst => by
        rw [status?, hs, Option.map_some, Option.some.injEq] at hst
        rw [hst] at terminal
        cases terminal
      have before : m.standing t = (some (s.status, s.model), none) := by
        rw [standing_eq hs, no_result]
      have after : (m.forget lifetime now).standing t = (none, none) := by
        unfold standing forget
        rw [hforget, hs]
        simp [hr, no_result]
      exact before ▸ after ▸ .forgotten terminal

theorem get?_expire_of_overdue (h : m.Sound) {r : Result} (settings : ManagerSettings)
    (ho : (t, r) ∈ m.overdue settings.resultLifetime now) : ∃ s, m.tickets.get? t = some s ∧
      s.status = .scheduled ∧ s.model = some r.key.model ∧
      (m.expire settings now).state.tickets.get? t = some (s.ended .expired now) := by
  obtain ⟨_, _, _, tickets, _⟩ := expireResults_spec h
    (nodup_staleResults m settings.resultLifetime now) (fun t ht => mem_staleResults ht) now
  obtain ⟨_, s, hs, hst, hmodel⟩ := h.accounted.results t r (mem_overdue.mp ho).1
  refine ⟨s, hs, hst, hmodel, ?_⟩
  have ended := tickets t
  rw [if_pos (mem_staleResults_iff.mpr ⟨r, ho⟩), hs, Option.map_some] at ended
  refine (get?_forget ..).mpr ⟨ended, ?_⟩
  rw [isRemembered_of_finished rfl]
  simp [elapsed]

theorem get?_expire (h : m.Sound) (settings : ManagerSettings) (now : Time)
    (ho : ∀ r, (t, r) ∉ m.overdue settings.resultLifetime now) :
    (m.expire settings now).state.tickets.get? t =
      (m.tickets.get? t).filter fun s => s.isRemembered settings.resultLifetime now := by
  obtain ⟨_, _, _, tickets, _⟩ := expireResults_spec h
    (nodup_staleResults m settings.resultLifetime now) (fun t ht => mem_staleResults ht) now
  have same := tickets t
  rw [if_neg (by simpa [mem_staleResults_iff] using ho)] at same
  rw [expire, forget, Table.get?_filter, same]

theorem expire_spec (settings : ManagerSettings) (now : Time) (h : m.Sound) :
    (m.expire settings now).state.Sound ∧ (m.expire settings now).state.issued = m.issued ∧
      (m.expire settings now).state.scheduler = m.scheduler ∧
      ∀ x, Lapse (m.standing x) ((m.expire settings now).state.standing x) := by
  obtain ⟨sound, issued, scheduler, tickets, results⟩ := expireResults_spec h
    (nodup_staleResults m settings.resultLifetime now) (fun t ht => mem_staleResults ht) now
  refine ⟨sound_forget sound _ now, issued, scheduler, fun x => ?_⟩
  by_cases hx : ∃ r, (x, r) ∈ m.overdue settings.resultLifetime now
  · obtain ⟨r, ho⟩ := hx
    obtain ⟨s, hs, hst, _, ended⟩ := get?_expire_of_overdue h settings ho
    have dropped : (m.expire settings now).state.results.get? x = none :=
      (results x).trans (if_pos (mem_staleResults_iff.mpr ⟨r, ho⟩))
    rw [standing_eq ended, dropped, standing_eq hs, (mem_overdue.mp ho).1, hst]
    exact .expired
  · rw [← mem_staleResults_iff] at hx
    have same : (expireResults now (m.staleResults settings.resultLifetime now) m).state.standing x =
        m.standing x := by
      unfold standing
      rw [tickets, results, if_neg hx, if_neg hx]
    exact same ▸ lapse_forget sound settings.resultLifetime now x

end Expire

end Manager

end InferenceDispatch
