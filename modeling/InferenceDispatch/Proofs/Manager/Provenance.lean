import InferenceDispatch.Proofs.Manager.LifeCycle

namespace InferenceDispatch

namespace Manager

/-- What waits for a ticket, or was laid out for it, goes back to its candidates. -/
structure Carries (t : Ticket) (candidates : List Candidate) (m : Manager) : Prop where
  issued : t ≤ m.issued
  entries : ∀ e ∈ m.scheduler.queue.entries, e.task.ticket = t → e.task.candidates = candidates
  result : ∀ r, m.results.get? t = some r → ∃ c ∈ candidates, r.key = ⟨c.model, c.provider⟩

variable {α : Type} [OfScientific α] [Add α] [Sub α] [Mul α] [LE α] [LT α]
  [DecidableLE α] [DecidableLT α] {strategy : Strategy α} {settings : ManagerSettings}

section Step

variable {m m' : Manager} {c : Call} {answer : Answer} {t : Ticket} {candidates : List Candidate}
  {s : Clocked Manager} {e : Effect (Clocked Manager) Answer}

theorem Step.old_result (step : Step m c answer m') (hc : ∀ gate, c ≠ .tick gate) {r : Result}
    (hr : m'.results.get? t = some r) : m.results.get? t = some r := by
  have hp := step.passage t
  have hafter : (m'.standing t).2 = some r := hr
  change (m.standing t).2 = some r
  generalize m.standing t = before at hp
  generalize m'.standing t = after at hp hafter
  cases hp with
  | stays => exact hafter
  | scheduled => exact absurd rfl (hc _)
  | issued | claimed | expired | forgotten | freed | completed | orphaned | cancelled => cases hafter

theorem tick_result (h : m.Sound) (gate : Gate) (now : Time) {r : Result}
    (hr : (m.tick strategy gate settings now).state.results.get? t = some r) :
    m.results.get? t = some r ∨
      ∃ e ∈ m.scheduler.queue.entries, e.task.ticket = t ∧ e.task = r.task ∧ e.key = r.key := by
  obtain ⟨sound, _, scheduler, lapse⟩ := expire_spec settings now h
  have swept : ∀ {r}, (m.expire settings now).state.results.get? t = some r →
      m.results.get? t = some r := by
    intro r hr
    have hlapse := lapse t
    have hafter : ((m.expire settings now).state.standing t).2 = some r := hr
    change (m.standing t).2 = some r
    generalize m.standing t = before at hlapse
    generalize (m.expire settings now).state.standing t = after at hlapse hafter
    cases hlapse with
    | stays => exact hafter
    | expired | forgotten => cases hafter
  rcases tick_cases strategy gate settings now m with ⟨_, hstate⟩ | ⟨_, w, scheduler', hw, hstate⟩
  · rw [hstate] at hr
    exact Or.inl (swept hr)
  · rw [hstate, result_assign] at hr
    split at hr
    next ht =>
      obtain ⟨_, _, e, he, _, hwon, _⟩ := Scheduler.schedule_spec sound.linked.exact hw
      rw [scheduler] at he
      subst hwon
      obtain rfl := Option.some.inj hr
      exact Or.inr ⟨e, he, ht.symm, rfl, rfl⟩
    next => exact Or.inl (swept hr)

theorem tick_entries (h : m.Sound) (gate : Gate) (now : Time) {x : Entry}
    (hx : x ∈ (m.tick strategy gate settings now).state.scheduler.queue.entries) :
    x ∈ m.scheduler.queue.entries := by
  obtain ⟨sound, _, scheduler, _⟩ := expire_spec settings now h
  rcases tick_cases strategy gate settings now m with ⟨_, hstate⟩ | ⟨_, w, scheduler', hw, hstate⟩
  · rw [hstate, scheduler] at hx
    exact hx
  · obtain ⟨_, _, _, _, _, _, left⟩ := Scheduler.schedule_spec sound.linked.exact hw
    rw [hstate] at hx
    change x ∈ scheduler'.queue.entries at hx
    rw [left, scheduler] at hx
    exact List.mem_of_mem_filter hx

theorem scheduler_kept (h : s.state.Sound) (hc : c.perform strategy settings s = .ok e)
    (kept : c = .getResult ∨ (∃ t, c = .takeResult t) ∨ (∃ t, c = .look t) ∨
      (∃ model, c = .setFree model) ∨ ∃ t outcome, c = .complete t outcome) :
    e.state.state.scheduler = s.state.scheduler := by
  rcases kept with rfl | ⟨t, rfl⟩ | ⟨t, rfl⟩ | ⟨model, rfl⟩ | ⟨t, outcome, rfl⟩ <;> cases hc
  · change s.state.getResult.1.scheduler = _
    unfold getResult
    split <;> rfl
  · rfl
  · change (s.state.look t).1.scheduler = _
    unfold look takeResult
    cases s.state.results.get? t <;> rfl
  · change (s.state.setFree s.now model).state.scheduler = _
    unfold setFree
    split
    next => rfl
    next t ht =>
      obtain ⟨st, hs, hst, _⟩ := h.accounted.mem_holders.mp (slotHolder?_mem ht)
      exact (scheduler_close h hs hst .completed s.now).1
  · change (s.state.complete s.now t outcome).state.scheduler = _
    unfold complete
    split
    next => rfl
    next hst =>
      obtain ⟨st, hs, hst⟩ := Option.map_eq_some_iff.mp hst
      exact (scheduler_close h hs hst outcome.status s.now).1
    next => rfl

/-- A call leaves no entry for a ticket issued before it but for tasks that had one. -/
theorem old_entry (h : s.state.Sound) (hc : c.perform strategy settings s = .ok e) {x : Entry}
    (hx : x ∈ e.state.state.scheduler.queue.entries) (old : x.task.ticket ≤ s.state.issued) :
    ∃ o ∈ s.state.scheduler.queue.entries, o.task = x.task := by
  cases c with
  | getResult => exact ⟨x, scheduler_kept h hc (by simp) ▸ hx, rfl⟩
  | takeResult t => exact ⟨x, scheduler_kept h hc (by simp) ▸ hx, rfl⟩
  | look t => exact ⟨x, scheduler_kept h hc (by simp) ▸ hx, rfl⟩
  | setFree model => exact ⟨x, scheduler_kept h hc (by simp) ▸ hx, rfl⟩
  | complete t outcome => exact ⟨x, scheduler_kept h hc (by simp) ▸ hx, rfl⟩
  | registerModel | advance =>
    cases hc
    exact ⟨x, hx, rfl⟩
  | tick gate =>
    cases hc
    exact ⟨x, tick_entries h gate s.now hx, rfl⟩
  | add payload candidates =>
    cases hc
    by_cases hne : candidates = []
    · subst hne
      exact ⟨x, hx, rfl⟩
    · obtain ⟨_, new, a⟩ := adds h settings s.now payload hne
      have hx : x ∈ (s.state.add settings s.now payload candidates).state.scheduler.queue.entries := hx
      rw [a.entries] at hx
      rcases List.mem_append.mp hx with hx | hx
      · exact ⟨x, hx, rfl⟩
      · rw [a.task x hx] at old
        exact absurd old (Nat.not_succ_le_self _)
  | withdraw provider =>
    cases hc
    obtain ⟨_, hstate, _⟩ := withdraw_spec h s.now provider
    obtain ⟨_, _, entries, _⟩ := Scheduler.withdraw_spec h.linked.exact provider
    have hx : x ∈ (s.state.withdraw s.now provider).state.scheduler.queue.entries := hx
    rw [hstate, entries] at hx
    exact ⟨x, List.mem_of_mem_filter hx, rfl⟩
  | cancel t =>
    cases hc
    have hx : x ∈ (s.state.cancel t).1.scheduler.queue.entries := hx
    unfold cancel at hx
    split at hx
    next st hs =>
      split at hx
      next =>
        obtain ⟨_, _, entries⟩ := Scheduler.cancel_spec h.linked.exact st.task
        exact ⟨x, List.mem_of_mem_filter (entries ▸ hx), rfl⟩
      next => exact ⟨x, hx, rfl⟩
    next => exact ⟨x, hx, rfl⟩
  | move entry tier =>
    obtain ⟨_, hrun, rfl⟩ := except_map_eq_ok_iff.mp hc
    obtain ⟨⟨queue, there⟩, hm, rfl⟩ := except_map_eq_ok_iff.mp hrun
    obtain ⟨_, entries⟩ := Scheduler.move_spec h.linked.exact hm
    obtain ⟨o, ho, rfl⟩ := List.mem_map.mp (entries ▸ hx)
    exact ⟨o, ho, (Queue.moved_task ..).symm⟩

theorem Carries.perform (carries : Carries t candidates s.state) (h : s.state.Sound)
    (hc : c.perform strategy settings s = .ok e) : Carries t candidates e.state.state := by
  have step := step_perform h hc
  refine ⟨Nat.le_trans carries.issued step.issued_le, fun x hx ht => ?_, fun r hr => ?_⟩
  · obtain ⟨o, ho, htask⟩ := old_entry h hc hx (ht ▸ carries.issued)
    rw [← htask]
    exact carries.entries o ho (htask ▸ ht)
  · have old : s.state.results.get? t = some r ∨ ∃ e ∈ s.state.scheduler.queue.entries,
        e.task.ticket = t ∧ e.task = r.task ∧ e.key = r.key := by
      by_cases htick : ∃ gate, c = .tick gate
      · obtain ⟨gate, rfl⟩ := htick
        cases hc
        exact tick_result h gate s.now hr
      · exact Or.inl (step.old_result (fun gate hgate => htick ⟨gate, hgate⟩) hr)
    rcases old with hr | ⟨o, ho, ht, _, hkey⟩
    · exact carries.result r hr
    · obtain ⟨c, hc, hk⟩ := h.linked.keys o ho
      exact ⟨c, carries.entries o ho ht ▸ hc, hkey ▸ hk⟩

theorem carries_add (h : s.state.Sound) {payload : Payload}
    (hc : (Call.add payload candidates).perform strategy settings s = .ok e)
    (hanswer : e.answer = .admitted (.ok t)) : Carries t candidates e.state.state := by
  cases hc
  by_cases hne : candidates = []
  · subst hne
    cases hanswer
  · obtain ⟨answered, new, a⟩ := adds h settings s.now payload hne
    obtain rfl : s.state.issued + 1 = t :=
      Except.ok.inj (answered.symm.trans (Answer.admitted.inj hanswer))
    refine ⟨Nat.le_of_eq a.issued.symm, fun x hx ht => ?_, fun r hr => ?_⟩
    · have hx : x ∈ (s.state.add settings s.now payload candidates).state.scheduler.queue.entries := hx
      rw [a.entries] at hx
      rcases List.mem_append.mp hx with hx | hx
      · obtain ⟨st, hs, _⟩ := waitingTask_eq_some.mp (h.linked.waiting x hx)
        exact absurd (ht ▸ h.known _ st hs) (Nat.not_succ_le_self _)
      · rw [a.task x hx]
    · -- the ticket is new, so no result waits for it
      have hr : (s.state.add settings s.now payload candidates).state.results.get?
        (s.state.issued + 1) = some r := hr
      rw [a.results] at hr
      obtain ⟨st, hs, _⟩ := h.scheduled_of_result hr
      exact absurd (h.known _ st hs) (Nat.not_succ_le_self _)

end Step

/-- A result that is handed out for a ticket names a candidate that the ticket was submitted with. -/
theorem claimed_key_mem {start : Time} {s : Clocked Manager} {t : Ticket} {payload : Payload}
    {candidates : List Candidate} {earlier later : List (Turn (Clocked Manager) Call Answer)}
    {turn turn' : Turn (Clocked Manager) Call Answer} {r : Result}
    (run : Run (Call.perform strategy settings) ⟨start, empty⟩ (earlier ++ turn :: later) s)
    (hcall : turn.call = .add payload candidates) (hanswer : turn.answer = .admitted (.ok t))
    (hlater : turn' ∈ later) (hclaim : turn'.answer = .claimed (some (t, r))) :
    ∃ c ∈ candidates, r.key = ⟨c.model, c.provider⟩ := by
  obtain ⟨first, hc, rest⟩ := run.cut_at
  have sound := sound_of_run first sound_empty
  rw [hcall] at hc
  have start : turn.after.state.Sound ∧ Carries t candidates turn.after.state :=
    ⟨(step_perform sound hc).sound, carries_add sound hc hanswer⟩
  obtain ⟨⟨sound', carries⟩, hc'⟩ := rest.keeps_turn
    (I := fun s => s.state.Sound ∧ Carries t candidates s.state)
    (fun _ _ _ h hc => ⟨(step_perform h.1 hc).sound, h.2.perform h.1 hc⟩) start hlater
  have handed : t ∈ turn'.answer.handed := Answer.mem_handed.mpr ⟨r, hclaim⟩
  obtain ⟨_, r', hanswer', before, _⟩ := (step_perform sound' hc').handed handed
  obtain rfl : r = r' := by
    rw [Turn.answer] at hclaim
    rw [hclaim] at hanswer'
    cases hanswer'
    rfl
  exact carries.result r (Prod.mk.inj before).2

end Manager

end InferenceDispatch
