import InferenceDispatch.Proofs.Manager.Admission
import InferenceDispatch.Proofs.Manager.Departure
import InferenceDispatch.Proofs.Manager.Pass

namespace InferenceDispatch

namespace Manager

section Step

variable {m m' : Manager} {c : Call} {answer : Answer} {t : Ticket}

theorem status_standing (m : Manager) (t : Ticket) :
    m.status? t = (m.standing t).1.map Prod.fst := by
  unfold standing status?
  cases m.tickets.get? t <;> rfl

theorem Step.issued_le (step : Step m c answer m') : m.issued ≤ m'.issued := by
  rcases step.issued with ⟨_, h⟩ | ⟨_, h⟩ <;> omega

theorem Step.issued_new (step : Step m c answer m') (ht : t ∈ answer.issued) :
    m.issued < t ∧ t ≤ m'.issued := by
  rcases step.issued with ⟨h, _⟩ | ⟨h, hnext⟩
  · rw [h] at ht
    cases ht
  · rw [h] at ht
    obtain rfl := List.mem_singleton.mp ht
    exact ⟨hnext ▸ Nat.lt_succ_self m.issued, Nat.le_refl _⟩

theorem Step.issued_before (step : Step m c answer m') (issued : t ≤ m'.issued)
    (old : t ∉ answer.issued) : t ≤ m.issued := by
  rcases step.issued with ⟨_, same⟩ | ⟨new, next⟩
  · exact same ▸ issued
  · have other : t ≠ m'.issued := fun h => old (by rw [new, h]; exact List.mem_cons_self)
    have below := Nat.lt_of_le_of_ne issued other
    rw [next] at below
    exact Nat.le_of_lt_succ below

/-- A ticket was issued and is not queued any more, or never was. -/
structure Left (t : Ticket) (m : Manager) : Prop where
  issued : t ≤ m.issued
  status : (m.standing t).1.map Prod.fst ≠ some .queued

/-- A ticket that has left the queue does not get back into it, and gets no result. -/
theorem Left.step (h : Left t m) (step : Step m c answer m') :
    Left t m' ∧ ((m.standing t).2 = none → (m'.standing t).2 = none) := by
  obtain ⟨ht, hq⟩ := h
  have old : t ∉ answer.issued := fun hi => Nat.not_le_of_lt (step.issued_new hi).1 ht
  have hp := step.passage t
  have kept : (m'.standing t).1.map Prod.fst ≠ some .queued ∧
      ((m.standing t).2 = none → (m'.standing t).2 = none) := by
    generalize m.standing t = before at hp hq
    generalize m'.standing t = after at hp ⊢
    cases hp with
    | stays => exact ⟨hq, id⟩
    | issued => exact absurd List.mem_cons_self old
    | scheduled | orphaned | cancelled => exact absurd rfl hq
    | claimed | expired | forgotten | freed => exact ⟨by simp, fun _ => rfl⟩
    | @completed outcome => exact ⟨by cases outcome <;> simp [CallOutcome.status], fun _ => rfl⟩
  exact ⟨⟨Nat.le_trans ht step.issued_le, kept.1⟩, kept.2⟩

end Step

section Perform

variable {α : Type} [OfScientific α] [Add α] [Sub α] [Mul α] [LE α] [LT α]
  [DecidableLE α] [DecidableLT α] {strategy : Strategy α} {settings : ManagerSettings}
  {s s₀ : Clocked Manager} {c : Call} {e : Effect (Clocked Manager) Answer}
  {turns : List (Turn (Clocked Manager) Call Answer)}

theorem perform_returns (h : s.state.Sound)
    (elsewhere : c.MovesElsewhere s.state.scheduler.queue) :
    ∃ e, c.perform strategy settings s = .ok e := by
  cases c with
  | move entry tier =>
    obtain ⟨r, hr⟩ : ∃ r, s.state.scheduler.queue.move entry tier s.now = .ok r :=
      Queue.move_returns h.linked.exact.filed elsewhere
    exact ⟨_, by rw [Call.perform, Call.run, hr]; rfl⟩
  | registerModel | add | tick | getResult | takeResult | look | setFree | complete | withdraw
  | cancel | advance => exact ⟨_, rfl⟩

theorem step_perform (h : s.state.Sound) (hc : c.perform strategy settings s = .ok e) :
    Step s.state c e.answer e.state.state := by
  cases c with
  | registerModel model slots => cases hc; exact step_register h model slots
  | add payload candidates => cases hc; exact step_add h settings s.now payload candidates
  | tick gate => cases hc; exact step_tick h strategy gate settings s.now
  | getResult => cases hc; exact step_getResult h
  | takeResult t => cases hc; exact step_takeResult h t
  | look t => cases hc; exact step_look h t
  | setFree model => cases hc; exact step_setFree h s.now model
  | complete t outcome => cases hc; exact step_complete h s.now t outcome
  | withdraw provider => cases hc; exact step_withdraw h s.now provider
  | cancel t => cases hc; exact step_cancel h t
  | move entry tier =>
    obtain ⟨_, hrun, rfl⟩ := except_map_eq_ok_iff.mp hc
    obtain ⟨⟨queue, there⟩, hm, rfl⟩ := except_map_eq_ok_iff.mp hrun
    exact step_move h hm
  | advance => cases hc; exact .quiet h rfl (fun _ => rfl) rfl rfl

theorem sound_of_run (run : Run (Call.perform strategy settings) s₀ turns s) (h : s₀.state.Sound) :
    s.state.Sound :=
  run.keeps (I := fun s => s.state.Sound) (fun _ _ _ h hc => (step_perform h hc).sound) h

theorem Left.run {t : Ticket} (left : Left t s₀.state) (h : s₀.state.Sound)
    (run : Run (Call.perform strategy settings) s₀ turns s) : Left t s.state :=
  (run.keeps (I := fun s => s.state.Sound ∧ Left t s.state)
    (fun _ _ _ h hc => ⟨(step_perform h.1 hc).sound, (h.2.step (step_perform h.1 hc)).1⟩) ⟨h, left⟩).2

theorem call_of_mem (run : Run (Call.perform strategy settings) s₀ turns s) (h : s₀.state.Sound)
    {turn : Turn (Clocked Manager) Call Answer} (ht : turn ∈ turns) :
    turn.before.state.Sound ∧ turn.call.perform strategy settings turn.before = .ok turn.effect :=
  run.keeps_turn (I := fun s => s.state.Sound) (fun _ _ _ h hc => (step_perform h hc).sound) h ht

theorem step_of_mem (run : Run (Call.perform strategy settings) s₀ turns s) (h : s₀.state.Sound)
    {turn : Turn (Clocked Manager) Call Answer} (ht : turn ∈ turns) :
    Step turn.before.state turn.call turn.answer turn.after.state := by
  obtain ⟨sound, hc⟩ := call_of_mem run h ht
  exact step_perform sound hc

end Perform

end Manager

end InferenceDispatch
