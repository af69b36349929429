import InferenceDispatch.Proofs.Manager.Closing

namespace InferenceDispatch

namespace Manager

/-- What every call on a sound manager does. -/
structure Step (m : Manager) (c : Call) (answer : Answer) (m' : Manager) : Prop where
  sound : m'.Sound
  issued : answer.issued = [] ∧ m'.issued = m.issued ∨
    answer.issued = [m'.issued] ∧ m'.issued = m.issued + 1
  passage : ∀ t, Passage t c answer (m.standing t) (m'.standing t)

variable {m m' : Manager} {c : Call} {answer : Answer} {t : Ticket} {s : TicketState} {now : Time}

theorem Sound.standing_queued (h : m.Sound) (hs : m.tickets.get? t = some s)
    (hst : s.status = .queued) : m.standing t = (some (.queued, s.model), none) := by
  have hstatus : m.status? t = some .queued := by rw [status?, hs, Option.map_some, hst]
  rw [standing_eq hs, hst, h.accounted.result_none (by simp [hstatus])]

/-- A call that changes no ticket's standing, and issues and hands out nothing. -/
theorem Step.quiet (sound : m'.Sound) (issued : m'.issued = m.issued)
    (standing : ∀ t, m'.standing t = m.standing t) (none_issued : answer.issued = [])
    (none_handed : answer.handed = []) : Step m c answer m' where
  sound := sound
  issued := Or.inl ⟨none_issued, issued⟩
  passage := by
    intro t
    rw [standing]
    exact .stays (by simp [none_issued]) (by simp [none_handed])

/-- A call that changes one ticket's standing and issues nothing. -/
theorem Step.single (sound : m'.Sound) (issued : m'.issued = m.issued)
    (none_issued : answer.issued = []) (handed : ∀ x ∈ answer.handed, x = t)
    (others : ∀ x, x ≠ t → m'.standing x = m.standing x)
    (passage : Passage t c answer (m.standing t) (m'.standing t)) : Step m c answer m' where
  sound := sound
  issued := Or.inl ⟨none_issued, issued⟩
  passage := by
    intro x
    by_cases hx : x = t
    · exact hx ▸ passage
    · rw [others x hx]
      exact .stays (by simp [none_issued]) fun hm => hx (handed x hm)

section Register

theorem sound_register (h : m.Sound) (model : String) (slots : Nat) :
    (m.registerModel model slots).Sound where
  known := h.known
  linked := h.linked.keep rfl fun _ => rfl
  accounted := h.accounted.keep h.accounted.states (fun _ _ _ => Iff.rfl) (fun _ _ hr => hr)
    fun _ => SlotTable.busy_register ..

theorem step_register (h : m.Sound) (model : String) (slots : Nat) :
    Step m (.registerModel model slots) .done (m.registerModel model slots) :=
  .quiet (sound_register h model slots) rfl (fun _ => rfl) rfl rfl

end Register

section Claim

theorem sound_erase_result (h : m.Sound) (t : Ticket) :
    Sound { m with results := m.results.erase t } where
  known := h.known
  linked := h.linked.keep rfl fun _ => rfl
  accounted := by
    refine h.accounted.keep h.accounted.states (fun _ _ _ => Iff.rfl) ?_ fun _ => rfl
    intro x r hr
    rw [SortedMap.get?_erase] at hr
    split at hr
    next => cases hr
    next => exact hr

theorem standing_erase_result (m : Manager) (t x : Ticket) :
    standing { m with results := m.results.erase t } x =
      ((m.standing x).1, if x = t then none else m.results.get? x) := by
  rw [standing, SortedMap.get?_erase]
  rfl

theorem step_claim (h : m.Sound) {r : Result} (hr : m.results.get? t = some r)
    (hc : c = .getResult ∨ c = .takeResult t ∨ c = .look t) :
    Step m c (.claimed (some (t, r))) { m with results := m.results.erase t } := by
  refine .single (t := t) (sound_erase_result h t) rfl rfl (by simp [Answer.handed]) ?_ ?_
  · intro x hx
    rw [standing_erase_result, if_neg hx, standing]
  · obtain ⟨s, hs, hst⟩ := h.scheduled_of_result hr
    rw [standing_erase_result, if_pos rfl, standing_eq hs, hr, hst]
    exact .claimed hc

theorem step_unclaimed (h : m.Sound) (hr : m.results.get? t = none) (c : Call) :
    Step m c (.claimed none) { m with results := m.results.erase t } := by
  refine .quiet (sound_erase_result h t) rfl (fun x => ?_) rfl rfl
  rw [standing_erase_result, standing]
  split
  next hx => rw [hx, hr]
  next => rfl

theorem step_getResult (h : m.Sound) : Step m .getResult (.claimed m.getResult.2) m.getResult.1 := by
  unfold getResult
  split
  next r results hpop =>
    obtain ⟨hr, rfl, _⟩ := SortedMap.popFirst?_eq_some hpop
    exact step_claim h hr (Or.inl rfl)
  next => exact .quiet h rfl (fun _ => rfl) rfl rfl

theorem step_takeResult (h : m.Sound) (t : Ticket) :
    Step m (.takeResult t) (.claimed ((m.takeResult t).2.map fun r => (t, r))) (m.takeResult t).1 := by
  unfold takeResult
  cases hr : m.results.get? t with
  | none => exact step_unclaimed h hr _
  | some r => exact step_claim h hr (Or.inr (Or.inl rfl))

theorem step_look (h : m.Sound) (t : Ticket) :
    Step m (.look t) (.claimed ((m.look t).2.result?.map fun r => (t, r))) (m.look t).1 := by
  unfold look takeResult
  cases hr : m.results.get? t with
  | none =>
    have seen : (if (m.status? t = some .queued) then Look.notYet else .never).result? = none := by
      split <;> rfl
    have step := step_unclaimed h hr (.look t)
    rw [← Option.map_none, ← seen] at step
    exact step
  | some r => exact step_claim h hr (Or.inr (Or.inr rfl))

end Claim

section Close

theorem step_close (h : m.Sound) (hs : m.tickets.get? t = some s) (hst : s.status = .scheduled)
    {status : Status} (terminal : status.isTerminal) (none_issued : answer.issued = [])
    (none_handed : answer.handed = [])
    (passage : ∀ r?,
      Passage t c answer (some (.scheduled, s.model), r?) (some (status, s.model), none)) :
    Step m c answer (m.close t status now).1 := by
  refine .single (t := t) (sound_close h hs hst terminal now)
    (scheduler_close h hs hst status now).2 none_issued (by simp [none_handed]) ?_ ?_
  · intro x hx
    rw [standing_close h hs hst, if_neg hx]
  · rw [standing_close h hs hst, if_pos rfl, standing_eq hs, hst]
    exact passage _

theorem slotHolder?_mem {model : String} (ht : m.slotHolder? model = some t) :
    t ∈ m.holders model := by
  rcases Option.or_eq_some_iff.mp ht with hc | ⟨_, hall⟩
  · exact List.mem_of_mem_filter (List.min?_mem hc)
  · exact List.min?_mem hall

theorem step_setFree (h : m.Sound) (now : Time) (model : String) :
    Step m (.setFree model) (.freed (m.setFree now model).answer) (m.setFree now model).state := by
  unfold setFree
  split
  next => exact .quiet h rfl (fun _ => rfl) rfl rfl
  next t ht =>
    obtain ⟨s, hs, hst, hmodel⟩ := h.accounted.mem_holders.mp (slotHolder?_mem ht)
    exact step_close h hs hst rfl rfl rfl fun _ => hmodel ▸ .freed

theorem step_complete (h : m.Sound) (now : Time) (t : Ticket) (outcome : CallOutcome) :
    Step m (.complete t outcome) (.completed (m.complete now t outcome).answer)
      (m.complete now t outcome).state := by
  unfold complete
  split
  next => exact .quiet h rfl (fun _ => rfl) rfl rfl
  next hst =>
    obtain ⟨s, hs, hst⟩ := Option.map_eq_some_iff.mp hst
    have terminal : outcome.status.isTerminal = true := by cases outcome <;> rfl
    exact step_close h hs hst terminal rfl rfl fun _ => .completed
  next => exact .quiet h rfl (fun _ => rfl) rfl rfl

end Close

end Manager

end InferenceDispatch
