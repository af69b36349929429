import InferenceDispatch.Number.Double
import InferenceDispatch.Proofs.Manager.History

namespace InferenceDispatch

namespace Manager

def slotOf (m : Manager) (t : Ticket) : Option String :=
  (m.tickets.get? t).bind fun s => if s.holdsSlot then s.model else none

def slotIn : Standing → Option String
  | (some (.scheduled, model?), _) => model?
  | _ => none

section Step

variable {m m' : Manager} {c : Call} {answer : Answer} {t : Ticket}

theorem mem_holders_iff_slotOf {model : String} : t ∈ m.holders model ↔ m.slotOf t = some model := by
  rw [mem_holders, slotOf, Option.bind_eq_some_iff]
  refine exists_congr fun s => and_congr_right fun _ => ?_
  cases s.holdsSlot <;> simp

theorem Accounted.slotOf_eq (h : m.Accounted) (t : Ticket) : m.slotOf t = slotIn (m.standing t) := by
  unfold slotOf
  cases hs : m.tickets.get? t with
  | none =>
    rw [standing, hs]
    rfl
  | some s =>
    have holds := (h.states t s hs).holds
    rw [standing_eq hs, Option.bind_some]
    split
    next hh =>
      rw [holds.mp hh]
      rfl
    next hh =>
      cases hst : s.status with
      | scheduled => exact absurd (holds.mpr hst) hh
      | queued | completed | failed | expired => rfl

/-- A call that changes the slot of a ticket is a pass that schedules the ticket, or one of the calls
that end a scheduled ticket. -/
theorem Step.slot (step : Step m c answer m') (h : m.Sound) (t : Ticket)
    (changed : m'.slotOf t ≠ m.slotOf t) :
    (m.slotOf t = none ∧ m.status? t = some .queued ∧ answer = .passed true ∧
      ∃ gate model, c = .tick gate ∧ m'.slotOf t = some model) ∨
    (m'.slotOf t = none ∧ ∃ model, m.slotOf t = some model ∧
      ((∃ gate, c = .tick gate) ∨ c = .setFree model ∨ ∃ outcome, c = .complete t outcome)) := by
  have hp := step.passage t
  rw [h.accounted.slotOf_eq, step.sound.accounted.slotOf_eq] at changed ⊢
  rw [status_standing]
  generalize m.standing t = before at hp changed ⊢
  generalize m'.standing t = after at hp changed ⊢
  cases hp with
  | stays => exact absurd rfl changed
  | issued | claimed | orphaned | cancelled => exact absurd rfl changed
  | scheduled => exact Or.inl ⟨rfl, rfl, rfl, _, _, rfl, rfl⟩
  | @expired gate _ model? =>
    cases model? with
    | none => exact absurd rfl changed
    | some model => exact Or.inr ⟨rfl, model, rfl, Or.inl ⟨gate, rfl⟩⟩
  | @forgotten gate _ status model? terminal =>
    cases status with
    | queued | scheduled => cases terminal
    | completed | failed | expired => exact absurd rfl changed
  | @freed model => exact Or.inr ⟨rfl, model, rfl, Or.inr (Or.inl rfl)⟩
  | @completed outcome model? =>
    cases model? with
    | none => cases outcome <;> exact absurd rfl changed
    | some model =>
      refine Or.inr ⟨?_, model, rfl, Or.inr (Or.inr ⟨outcome, rfl⟩)⟩
      cases outcome <;> rfl

/-- The slot a ticket has after a call and did not have before. -/
def slotGained (before after : Manager) (t : Ticket) : Option String :=
  if before.slotOf t = none then after.slotOf t else none

theorem Step.gained (step : Step m c answer m') (h : m.Sound) {model : String}
    (hg : slotGained m m' t = some model) : m.status? t = some .queued ∧
      m'.status? t = some .scheduled ∧ answer = .passed true ∧ ∃ gate, c = .tick gate := by
  unfold slotGained at hg
  split at hg
  next hbefore =>
    rcases step.slot h t (by simp [hg, hbefore]) with
      ⟨_, queued, answered, gate, _, hc, _⟩ | ⟨hafter, _⟩
    · obtain ⟨s, hs, hst, _⟩ :=
        step.sound.accounted.mem_holders.mp (mem_holders_iff_slotOf.mpr hg)
      exact ⟨queued, by rw [status?, hs, Option.map_some, hst], answered, gate, hc⟩
    · rw [hafter] at hg
      cases hg
  next => cases hg

theorem Step.lost (step : Step m c answer m') (h : m.Sound) {model : String}
    (hl : slotGained m' m t = some model) :
    (∃ gate, c = .tick gate) ∨ c = .setFree model ∨ ∃ outcome, c = .complete t outcome := by
  unfold slotGained at hl
  split at hl
  next hafter =>
    rcases step.slot h t (by simp [hl, hafter]) with ⟨hbefore, _⟩ | ⟨_, _, hbefore, how⟩
    · rw [hbefore] at hl
      cases hl
    · rw [hl] at hbefore
      cases hbefore
      exact how
  next => cases hl

end Step

section Ledger

variable {α : Type} [OfScientific α] [Add α] [Sub α] [Mul α] [LE α] [LT α]
  [DecidableLE α] [DecidableLT α] {strategy : Strategy α} {settings : ManagerSettings}
  {start : Time} {s : Clocked Manager} {turns : List (Turn (Clocked Manager) Call Answer)}

def slotsGiven (turns : List (Turn (Clocked Manager) Call Answer)) (t : Ticket) : List String :=
  turns.flatMap fun turn => (slotGained turn.before.state turn.after.state t).toList

def slotsReturned (turns : List (Turn (Clocked Manager) Call Answer)) (t : Ticket) : List String :=
  turns.flatMap fun turn => (slotGained turn.after.state turn.before.state t).toList

theorem slotsGiven_concat (turn : Turn (Clocked Manager) Call Answer) (t : Ticket) :
    slotsGiven (turns ++ [turn]) t =
      slotsGiven turns t ++ (slotGained turn.before.state turn.after.state t).toList := by
  rw [slotsGiven, List.flatMap_append, List.flatMap_singleton]
  rfl

theorem slotsReturned_concat (turn : Turn (Clocked Manager) Call Answer) (t : Ticket) :
    slotsReturned (turns ++ [turn]) t =
      slotsReturned turns t ++ (slotGained turn.after.state turn.before.state t).toList := by
  rw [slotsReturned, List.flatMap_append, List.flatMap_singleton]
  rfl

/-- The slots a ticket was given are those it returned, and the one it holds. -/
theorem slots_balance (run : Run (Call.perform strategy settings) ⟨start, empty⟩ turns s)
    (t : Ticket) : slotsGiven turns t = slotsReturned turns t ++ (s.state.slotOf t).toList := by
  induction run with
  | start => rfl
  | @next turns s c e run hc ih =>
    have sound := sound_of_run run sound_empty
    have step := step_perform sound hc
    rw [slotsGiven_concat, slotsReturned_concat, ih]
    change _ ++ (slotGained s.state e.state.state t).toList =
      _ ++ (slotGained e.state.state s.state t).toList ++ (e.state.state.slotOf t).toList
    unfold slotGained
    by_cases changed : e.state.state.slotOf t = s.state.slotOf t
    · rw [changed]
      cases s.state.slotOf t <;> simp
    · rcases step.slot sound t changed with
        ⟨before, _, _, _, model, _, after⟩ | ⟨after, model, before, _⟩
      · simp [before, after]
      · simp [before, after]

theorem one_slot (run : Run (Call.perform strategy settings) ⟨start, empty⟩ turns s) (t : Ticket) :
    slotsGiven turns t = [] ∨ (slotsGiven turns t).length = 1 ∧ Left t s.state := by
  induction run with
  | start => exact Or.inl rfl
  | @next turns s c e run hc ih =>
    have sound := sound_of_run run sound_empty
    have step := step_perform sound hc
    rw [slotsGiven_concat]
    change slotsGiven turns t ++ (slotGained s.state e.state.state t).toList = [] ∨
      (slotsGiven turns t ++ (slotGained s.state e.state.state t).toList).length = 1 ∧ _
    cases hg : slotGained s.state e.state.state t with
    | none =>
      rw [Option.toList_none, List.append_nil]
      exact ih.imp_right fun h => ⟨h.1, (h.2.step step).1⟩
    | some model =>
      obtain ⟨queued, scheduled, _⟩ := step.gained sound hg
      -- the ticket is queued until now, so it had no slot before
      have first : slotsGiven turns t = [] := by
        rcases ih with h | ⟨_, left⟩
        · exact h
        · exact absurd (status_standing s.state t ▸ queued) left.status
      obtain ⟨st, hst, _⟩ := Option.map_eq_some_iff.mp queued
      refine Or.inr ⟨by simp [first], Nat.le_trans (sound.known t st hst) step.issued_le, ?_⟩
      rw [← status_standing, scheduled]
      simp

theorem tick_gives_slot {m : Manager} (h : m.Sound) (strategy : Strategy α) (gate : Gate)
    (settings : ManagerSettings) (now : Time)
    (answered : (m.tick strategy gate settings now).answer = true) :
    let m' := (m.tick strategy gate settings now).state
    ∃ t model, slotGained m m' t = some model ∧ m'.slots.busy model ≤ m'.slots.total model ∧
      ∀ x, x ≠ t → slotGained m m' x = none := by
  obtain ⟨sound, _, _, lapse⟩ := expire_spec settings now h
  rcases tick_cases strategy gate settings now m with
    ⟨nothing, _⟩ | ⟨_, w, scheduler, hw, hstate⟩
  · rw [answered] at nothing
    cases nothing
  · intro m'
    obtain ⟨⟨model?, queued⟩, after⟩ := standing_assign sound hw
    obtain ⟨holder, within⟩ := holders_assign sound hw
    have sound' : m'.Sound := (step_tick h strategy gate settings now).sound
    rw [← hstate] at after holder within
    refine ⟨w.task.ticket, w.key.model, ?_, within, fun x hx => ?_⟩
    · have before := lapse w.task.ticket
      rw [queued] at before
      have none_before : m.slotOf w.task.ticket = none := by
        rw [h.accounted.slotOf_eq, before.queued]
        rfl
      rw [slotGained, if_pos none_before]
      exact mem_holders_iff_slotOf.mp holder
    · rw [slotGained, h.accounted.slotOf_eq, sound'.accounted.slotOf_eq, after, if_neg hx]
      have hlapse := lapse x
      generalize m.standing x = before at hlapse
      generalize (m.expire settings now).state.standing x = swept at hlapse
      cases hlapse with
      | stays =>
        split
        next hnone => exact hnone
        next => rfl
      | expired | forgotten => split <;> rfl

theorem turn_gives_slot (run : Run (Call.perform strategy settings) ⟨start, empty⟩ turns s)
    {turn : Turn (Clocked Manager) Call Answer} (ht : turn ∈ turns) {gate : Gate}
    (hcall : turn.call = .tick gate) (hanswer : turn.answer = .passed true) :
    ∃ t model, slotGained turn.before.state turn.after.state t = some model ∧
      turn.after.state.slots.busy model ≤ turn.after.state.slots.total model ∧
      ∀ x, x ≠ t → slotGained turn.before.state turn.after.state x = none := by
  obtain ⟨sound, hc⟩ := call_of_mem run sound_empty ht
  rw [hcall] at hc
  have answered : turn.answer = .passed (turn.before.state.tick strategy gate settings
      turn.before.now).answer := congrArg Effect.answer (Except.ok.inj hc).symm
  have reached : turn.after.state =
      (turn.before.state.tick strategy gate settings turn.before.now).state :=
    congrArg (fun e => e.state.state) (Except.ok.inj hc).symm
  rw [reached]
  exact tick_gives_slot sound strategy gate settings turn.before.now
    (Answer.passed.inj (answered ▸ hanswer))

end Ledger

end Manager

end InferenceDispatch
