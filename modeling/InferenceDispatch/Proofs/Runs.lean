import InferenceDispatch.Monitoring.Event

namespace InferenceDispatch

/-- A system together with its clock. -/
structure Clocked (σ : Type) where
  now : Time
  state : σ

structure Turn (σ κ α : Type) where
  before : σ
  call : κ
  effect : Effect σ α

namespace Turn

variable {σ κ α : Type}

def after (t : Turn σ κ α) : σ := t.effect.state

def answer (t : Turn σ κ α) : α := t.effect.answer

def events (t : Turn σ κ α) : List Event := t.effect.events

end Turn

theorem except_map_eq_ok_iff {α β ε : Type} {f : α → β} {x : Except ε α} {b : β} :
    x.map f = .ok b ↔ ∃ a, x = .ok a ∧ f a = b := by
  cases x <;> simp [Except.map]

theorem except_bind_eq_ok_iff {α β ε : Type} {x : Except ε α} {f : α → Except ε β} {b : β} :
    x >>= f = .ok b ↔ ∃ a, x = .ok a ∧ f a = .ok b := by
  cases x <;> simp [bind, Except.bind]

theorem eq_ok_of_toOption {α ε : Type} {x : Except ε α} {a : α} (h : x.toOption = some a) :
    x = .ok a := by
  cases x with
  | ok => exact congrArg Except.ok (Option.some.inj h)
  | error => cases h

/-- The runs from a state: every turn starts where the one before it ended, and its call returned. -/
inductive Run {σ κ α ε : Type} (step : κ → σ → Except ε (Effect σ α)) (initial : σ) :
    List (Turn σ κ α) → σ → Prop
  | start : Run step initial [] initial
  | next {turns s c e} : Run step initial turns s → step c s = .ok e →
      Run step initial (turns ++ [⟨s, c, e⟩]) e.state

def play {σ κ α ε : Type} (step : κ → σ → Except ε (Effect σ α)) :
    List κ → σ → Except ε (List (Turn σ κ α) × σ)
  | [], s => .ok ([], s)
  | c :: cs, s =>
    match step c s with
    | .error fault => .error fault
    | .ok e => (play step cs e.state).map fun (turns, last) => (⟨s, c, e⟩ :: turns, last)

namespace Run

variable {σ κ α ε : Type} {step : κ → σ → Except ε (Effect σ α)} {initial s : σ}

theorem keeps {I : σ → Prop} (keep : ∀ c s e, I s → step c s = .ok e → I e.state)
    {turns : List (Turn σ κ α)} (run : Run step initial turns s) (h : I initial) : I s := by
  induction run with
  | start => exact h
  | next _ hc ih => exact keep _ _ _ ih hc

theorem keeps_turn {I : σ → Prop} (keep : ∀ c s e, I s → step c s = .ok e → I e.state)
    {turns : List (Turn σ κ α)} (run : Run step initial turns s) (h : I initial)
    {turn : Turn σ κ α} (ht : turn ∈ turns) :
    I turn.before ∧ step turn.call turn.before = .ok turn.effect := by
  induction run with
  | start => simp at ht
  | next earlier hc ih =>
    rcases List.mem_append.mp ht with ht | ht
    · exact ih ht
    · obtain rfl := List.mem_singleton.mp ht
      exact ⟨earlier.keeps keep h, hc⟩

theorem eq_of_nil (run : Run step initial [] s) : s = initial := by
  generalize hnil : ([] : List (Turn σ κ α)) = turns at run
  cases run with
  | start => rfl
  | next => simp at hnil

theorem cut {earlier later : List (Turn σ κ α)} (run : Run step initial (earlier ++ later) s) :
    ∃ mid, Run step initial earlier mid ∧ Run step mid later s := by
  generalize hall : earlier ++ later = all at run
  induction run generalizing later with
  | start =>
    obtain ⟨rfl, rfl⟩ := List.append_eq_nil_iff.mp hall
    exact ⟨initial, .start, .start⟩
  | @next turns s c e run hc ih =>
    rcases List.eq_nil_or_concat later with rfl | ⟨later, turn, rfl⟩
    · rw [List.append_nil] at hall
      exact ⟨e.state, hall ▸ run.next hc, .start⟩
    · rw [List.concat_eq_append, ← List.append_assoc] at hall
      obtain ⟨hturns, hturn⟩ := List.append_inj' hall rfl
      obtain ⟨mid, hearlier, hlater⟩ := ih hturns
      cases hturn
      exact ⟨mid, hearlier, by simpa using hlater.next hc⟩

/-- A run up to one of its turns, that turn, and the run after it. -/
theorem cut_at {earlier later : List (Turn σ κ α)} {turn : Turn σ κ α}
    (run : Run step initial (earlier ++ turn :: later) s) :
    Run step initial earlier turn.before ∧ step turn.call turn.before = .ok turn.effect ∧
      Run step turn.after later s := by
  rw [List.append_cons] at run
  obtain ⟨mid, hearlier, hlater⟩ := run.cut
  generalize hturns : earlier ++ [turn] = turns at hearlier
  cases hearlier with
  | start => simp at hturns
  | next first hc =>
    obtain ⟨rfl, hturn⟩ := List.append_inj' hturns rfl
    cases hturn
    exact ⟨first, hc, hlater⟩

/-- What holds in the end and not at the start came about in one of the turns and has held since. -/
theorem since {P : σ → Prop} {turns : List (Turn σ κ α)} (run : Run step initial turns s)
    (first : ¬P initial) (last : P s) : ∃ earlier turn later, turns = earlier ++ turn :: later ∧
      ¬P turn.before ∧ P turn.after ∧ ∀ t ∈ later, P t.after := by
  induction run with
  | start => exact absurd last first
  | @next turns s c e run hc ih =>
    by_cases held : P s
    · obtain ⟨earlier, turn, later, hturns, before, after, still⟩ := ih held
      refine ⟨earlier, turn, later ++ [⟨s, c, e⟩], by simp [hturns], before, after, ?_⟩
      intro t ht
      rcases List.mem_append.mp ht with ht | ht
      · exact still t ht
      · obtain rfl := List.mem_singleton.mp ht
        exact last
    · exact ⟨turns, ⟨s, c, e⟩, [], rfl, held, last, by simp⟩

theorem append {earlier later : List (Turn σ κ α)} {mid : σ} (first : Run step initial earlier mid)
    (last : Run step mid later s) : Run step initial (earlier ++ later) s := by
  induction last with
  | start => simpa using first
  | next _ hc ih => exact List.append_assoc .. ▸ ih.next hc

theorem of_play {cs : List κ} {turns : List (Turn σ κ α)} (h : play step cs initial = .ok (turns, s)) :
    Run step initial turns s := by
  induction cs generalizing initial turns with
  | nil =>
    cases h
    exact .start
  | cons c cs ih =>
    rw [play] at h
    split at h
    next => simp at h
    next e hc =>
      obtain ⟨⟨later, last⟩, hp, hr⟩ := except_map_eq_ok_iff.mp h
      cases hr
      exact (Run.start.next hc).append (ih hp)

theorem calls_of_play {cs : List κ} {turns : List (Turn σ κ α)}
    (h : play step cs initial = .ok (turns, s)) : turns.map Turn.call = cs := by
  induction cs generalizing initial turns with
  | nil =>
    cases h
    rfl
  | cons c cs ih =>
    rw [play] at h
    split at h
    next => simp at h
    next e hc =>
      obtain ⟨⟨later, last⟩, hp, hr⟩ := except_map_eq_ok_iff.mp h
      cases hr
      rw [List.map_cons, ih hp]

/-- A run that is played and looked at through `view`. -/
theorem exists_of_play {β : Type} {cs : List κ} {view : List (Turn σ κ α) × σ → β} {b : β}
    (h : (play step cs initial).toOption.map view = some b) :
    ∃ turns s, Run step initial turns s ∧ view (turns, s) = b := by
  cases hp : play step cs initial with
  | error => simp [hp, Except.toOption] at h
  | ok r =>
    rw [hp] at h
    exact ⟨r.1, r.2, of_play hp, Option.some.inj h⟩

theorem exists_of_play_parts {β : Type} {cs cs' : List κ} {view : List (Turn σ κ α) × σ → β} {b : β}
    (h : ((play step cs initial).toOption.bind fun r => (play step cs' r.2).toOption.map view) =
      some b) : ∃ earlier mid later s, Run step initial earlier mid ∧ Run step mid later s ∧
        later.map Turn.call = cs' ∧ view (later, s) = b := by
  obtain ⟨⟨earlier, mid⟩, first, h⟩ := Option.bind_eq_some_iff.mp h
  obtain ⟨⟨later, s⟩, second, hview⟩ := Option.map_eq_some_iff.mp h
  have second := eq_ok_of_toOption second
  exact ⟨earlier, mid, later, s, of_play (eq_ok_of_toOption first), of_play second,
    calls_of_play second, hview⟩

end Run

end InferenceDispatch
