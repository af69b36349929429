import InferenceDispatch.Number.Double
import InferenceDispatch.Proofs.Manager.History

namespace InferenceDispatch

namespace Manager

inductive TicketCall where
  | takeResult (ticket : Ticket)
  | complete (ticket : Ticket) (outcome : CallOutcome)
  | status (ticket : Ticket)

inductive TicketAnswer where
  | result (found : Option Result)
  | completed (r : Except ManagerFault Status)
  | status (found : Option Status)
deriving DecidableEq

namespace TicketCall

def ticket : TicketCall → Ticket
  | takeResult t | complete t _ | status t => t

def run (now : Time) (m : Manager) : TicketCall → Effect Manager TicketAnswer
  | takeResult t =>
    let (m, r) := m.takeResult t
    .answerOnly m (.result r)
  | complete t outcome => (m.complete now t outcome).map .completed
  | status t => .answerOnly m (.status (m.status? t))

def meets (st : Standing) : TicketCall → TicketAnswer × Standing
  | takeResult _ => (.result st.2, st.1, none)
  | complete t outcome =>
    match st.1 with
    | none => (.completed (.error (.unknownTicket t)), st)
    | some (.scheduled, model) => (.completed (.ok outcome.status), some (outcome.status, model), none)
    | some (other, _) => (.completed (.error (.wrongStatus t other)), st)
  | status _ => (.status (st.1.map Prod.fst), st)

end TicketCall

structure ClientCall (ι : Type) where
  client : ι
  time : Time
  call : TicketCall

section Converse

variable {ι : Type}

/-- Makes calls in turn; gives each with its answer, and the manager at the end. -/
def converse (m : Manager) : List (ClientCall ι) → List (ClientCall ι × TicketAnswer) × Manager
  | [] => ([], m)
  | c :: calls =>
    let e := c.call.run c.time m
    let (answers, last) := converse e.state calls
    ((c, e.answer) :: answers, last)

variable [DecidableEq ι]

def callsOf (i : ι) (calls : List (ClientCall ι)) : List (ClientCall ι) :=
  calls.filter fun c => c.client = i

def answersTo (i : ι) (answers : List (ClientCall ι × TicketAnswer)) : List TicketAnswer :=
  (answers.filter fun a => a.1.client = i).map Prod.snd

theorem callsOf_cons (i : ι) (c : ClientCall ι) (calls : List (ClientCall ι)) :
    callsOf i (c :: calls) = if c.client = i then c :: callsOf i calls else callsOf i calls := by
  unfold callsOf
  rw [List.filter_cons]
  simp only [decide_eq_true_eq]

theorem callsOf_append (i : ι) (calls calls' : List (ClientCall ι)) :
    callsOf i (calls ++ calls') = callsOf i calls ++ callsOf i calls' :=
  List.filter_append ..

theorem answersTo_converse_cons (i : ι) (m : Manager) (c : ClientCall ι) (calls : List (ClientCall ι)) :
    answersTo i (converse m (c :: calls)).1 =
      if c.client = i then (c.call.run c.time m).answer ::
        answersTo i (converse (c.call.run c.time m).state calls).1
      else answersTo i (converse (c.call.run c.time m).state calls).1 := by
  unfold answersTo
  rw [converse, List.filter_cons]
  simp only [decide_eq_true_eq]
  split <;> rfl

end Converse

section Locality

variable {m : Manager} {c : TicketCall} {now : Time}

theorem unmoved {m' : Manager} {t : Ticket} {st : Standing} (same : st = m.standing t)
    (h : ∀ x, m'.standing x = m.standing x) (x : Ticket) :
    m'.standing x = if x = t then st else m.standing x := by
  rw [h]
  split
  next hx => rw [hx, same]
  next => rfl

theorem complete_meets (h : m.Sound) (now : Time) (t : Ticket) (outcome : CallOutcome) :
    ((TicketCall.complete t outcome).run now m).answer =
        ((TicketCall.complete t outcome).meets (m.standing t)).1 ∧
      ∀ x, ((TicketCall.complete t outcome).run now m).state.standing x =
        if x = t then ((TicketCall.complete t outcome).meets (m.standing t)).2 else m.standing x := by
  unfold TicketCall.run TicketCall.meets complete
  cases hs : m.tickets.get? t with
  | none =>
    have known : (m.standing t).1 = none := by rw [standing, hs, Option.map_none]
    have hst : m.status? t = none := by rw [status?, hs, Option.map_none]
    simp only [hst, known]
    exact ⟨rfl, unmoved rfl fun _ => rfl⟩
  | some s =>
    have known : (m.standing t).1 = some (s.status, s.model) := by rw [standing_eq hs]
    have hst : m.status? t = some s.status := by rw [status?, hs, Option.map_some]
    cases status : s.status with
    | scheduled =>
      simp only [hst, known, status]
      exact ⟨rfl, standing_close h hs status outcome.status now⟩
    | queued | completed | failed | expired =>
      simp only [hst, known, status]
      exact ⟨rfl, unmoved rfl fun _ => rfl⟩

theorem run_meets (h : m.Sound) (now : Time) (c : TicketCall) :
    (c.run now m).answer = (c.meets (m.standing c.ticket)).1 ∧
      ∀ x, (c.run now m).state.standing x =
        if x = c.ticket then (c.meets (m.standing c.ticket)).2 else m.standing x := by
  cases c with
  | takeResult t =>
    refine ⟨rfl, fun x => (standing_erase_result m t x).trans ?_⟩
    change _ = if x = t then ((m.standing t).1, none) else m.standing x
    by_cases hx : x = t
    · rw [if_pos hx, if_pos hx, hx]
    · rw [if_neg hx, if_neg hx]
      rfl
  | complete t outcome => exact complete_meets h now t outcome
  | status t => exact ⟨congrArg TicketAnswer.status (status_standing m t), unmoved rfl fun _ => rfl⟩

theorem sound_run (h : m.Sound) (now : Time) (c : TicketCall) : (c.run now m).state.Sound := by
  cases c with
  | takeResult t => exact (step_takeResult h t).sound
  | complete t outcome => exact (step_complete h now t outcome).sound
  | status t => exact h

/-- A client is answered as if no other one had called: what the others do about their tickets leaves the
standing of its own ones alone, and answers hang on nothing else. -/
theorem answersTo_eq_alone {ι : Type} [DecidableEq ι] {owns : ι → Ticket → Prop}
    (apart : ∀ i j t, owns i t → owns j t → i = j) (i : ι) {calls alone : List (ClientCall ι)}
    (own : ∀ c ∈ calls, owns c.client c.call.ticket)
    (same : alone.map ClientCall.call = (callsOf i calls).map ClientCall.call) {m m' : Manager}
    (h : m.Sound) (h' : m'.Sound) (agree : ∀ t, owns i t → m.standing t = m'.standing t) :
    answersTo i (converse m calls).1 = (converse m' alone).1.map Prod.snd := by
  induction calls generalizing alone m m' with
  | nil =>
    obtain rfl : alone = [] := List.map_eq_nil_iff.mp same
    rfl
  | cons c calls ih =>
    obtain ⟨hc, own⟩ := List.forall_mem_cons.mp own
    obtain ⟨answer, after⟩ := run_meets h c.time c.call
    have sound := sound_run h c.time c.call
    rw [callsOf_cons] at same
    rw [answersTo_converse_cons]
    split at same
    next hi =>
      rw [List.map_cons] at same
      obtain ⟨⟨_, now, call⟩, alone, rfl, rfl, same'⟩ := List.map_eq_cons_iff.mp same
      have mine : m.standing c.call.ticket = m'.standing c.call.ticket := agree _ (hi ▸ hc)
      obtain ⟨answer', after'⟩ := run_meets h' now c.call
      rw [← mine] at answer' after'
      have rest := ih own same' sound (sound_run h' now c.call) fun t ht => by
        rw [after, after', agree t ht]
      rw [if_pos hi, rest, converse, List.map_cons, answer, answer']
    next hi =>
      rw [if_neg hi]
      refine ih own same sound h' fun t ht => ?_
      have other : t ≠ c.call.ticket := by
        rintro rfl
        exact hi (apart _ _ _ hc ht)
      rw [after, if_neg other, agree t ht]

end Locality

section Order

variable {m : Manager} {ι : Type}

inductive Change where
  | nothing
  | claimed
  | ended (s : TicketState) (model : String)

def Change.apply (t : Ticket) (m : Manager) : Change → Manager
  | nothing => m
  | claimed => { m with results := m.results.erase t }
  | ended s model => { m with
      tickets := m.tickets.modify t fun _ => s
      results := m.results.erase t
      slots := m.slots.release model }

def TicketCall.change (now : Time) (known : Option TicketState) : TicketCall → Change
  | takeResult _ => .claimed
  | complete _ outcome =>
    match known with
    | none => .nothing
    | some s =>
      if s.status = .scheduled then .ended (s.ended outcome.status now) (s.model.getD "") else .nothing
  | status _ => .nothing

theorem complete_apply (h : m.Sound) (now : Time) (t : Ticket) (outcome : CallOutcome) :
    (m.complete now t outcome).state =
      ((TicketCall.complete t outcome).change now (m.tickets.get? t)).apply t m := by
  unfold complete status? TicketCall.change
  cases hs : m.tickets.get? t with
  | none => rfl
  | some s =>
    by_cases hst : s.status = .scheduled
    · obtain ⟨model, hmodel, heq⟩ := close_eq h hs hst outcome.status now
      simp only [Option.map_some, hst, if_pos, heq, hmodel, Option.getD_some, Change.apply,
        Table.insert_of_get? hs]
    · simp only [Option.map_some, if_neg hst, Change.apply]
      rfl

theorem run_apply (h : m.Sound) (now : Time) (c : TicketCall) :
    (c.run now m).state = (c.change now (m.tickets.get? c.ticket)).apply c.ticket m := by
  cases c with
  | takeResult t => rfl
  | complete t outcome => exact complete_apply h now t outcome
  | status t => rfl

theorem get?_apply {t x : Ticket} (other : x ≠ t) (change : Change) :
    (change.apply t m).tickets.get? x = m.tickets.get? x := by
  cases change with
  | nothing | claimed => rfl
  | ended s model => exact (Table.get?_modify ..).trans (if_neg other)

/-- Changes to two tickets may come in either order. Both may return a slot of one model: the count
falls by one each time, so it does not matter whose slot is returned first. -/
theorem apply_comm {t t' : Ticket} (apart : t ≠ t') (a b : Change) :
    b.apply t' (a.apply t m) = a.apply t (b.apply t' m) := by
  have results : (m.results.erase t).erase t' = (m.results.erase t').erase t :=
    SortedMap.erase_comm m.results t t'
  have tickets (s s' : TicketState) : (m.tickets.modify t fun _ => s).modify t' (fun _ => s') =
      (m.tickets.modify t' fun _ => s').modify t fun _ => s :=
    m.tickets.modify_comm t t' fun same => absurd same apart
  have slots (model model' : String) : (m.slots.release model).release model' =
      (m.slots.release model').release model :=
    m.slots.modify_comm model model' fun _ _ => rfl
  cases a with
  | nothing => rfl
  | claimed =>
    cases b with
    | nothing => rfl
    | claimed | ended => simp only [Change.apply, results]
  | ended s model =>
    cases b with
    | nothing => rfl
    | claimed => simp only [Change.apply, results]
    | ended s' model' => simp only [Change.apply, results, tickets s s', slots model model']

theorem run_comm (h : m.Sound) {now now' : Time} {a b : TicketCall} (apart : a.ticket ≠ b.ticket) :
    (b.run now' (a.run now m).state).state = (a.run now (b.run now' m).state).state := by
  rw [run_apply (sound_run h now a), run_apply h now a, run_apply (sound_run h now' b),
    run_apply h now' b, get?_apply apart.symm, get?_apply apart, apply_comm apart]

theorem converse_middle (h : m.Sound) {c : ClientCall ι} {earlier : List (ClientCall ι)}
    (apart : ∀ b ∈ earlier, c.call.ticket ≠ b.call.ticket) (later : List (ClientCall ι)) :
    (converse m (earlier ++ c :: later)).2 = (converse m (c :: (earlier ++ later))).2 := by
  induction earlier generalizing m with
  | nil => rfl
  | cons b earlier ih =>
    obtain ⟨hb, apart⟩ := List.forall_mem_cons.mp apart
    have moved := ih (sound_run h b.time b.call) apart
    calc (converse m (b :: (earlier ++ c :: later))).2
        = (converse (b.call.run b.time m).state (earlier ++ c :: later)).2 := rfl
      _ = (converse (c.call.run c.time (b.call.run b.time m).state).state (earlier ++ later)).2 := moved
      _ = (converse (b.call.run b.time (c.call.run c.time m).state).state (earlier ++ later)).2 := by
        rw [run_comm h hb]

variable [DecidableEq ι]

theorem mem_callsOf {i : ι} {c : ClientCall ι} {calls : List (ClientCall ι)} :
    c ∈ callsOf i calls ↔ c ∈ calls ∧ c.client = i := by
  unfold callsOf
  rw [List.mem_filter, decide_eq_true_eq]

/-- Where every client makes the same calls, in the same order, the order between clients is free. -/
theorem converse_state_eq {owns : ι → Ticket → Prop}
    (apart : ∀ i j t, owns i t → owns j t → i = j) {calls calls' : List (ClientCall ι)}
    (own : ∀ c ∈ calls, owns c.client c.call.ticket)
    (same : ∀ i, callsOf i calls' = callsOf i calls) (h : m.Sound) :
    (converse m calls').2 = (converse m calls).2 := by
  induction calls generalizing calls' m with
  | nil =>
    have none_made : calls' = [] := List.eq_nil_iff_forall_not_mem.mpr fun c hc => by
      have made : c ∈ callsOf c.client calls' := mem_callsOf.mpr ⟨hc, rfl⟩
      rw [same] at made
      cases made
    rw [none_made]
  | cons c calls ih =>
    -- the client's first call comes somewhere in the other order, after calls of others only
    have first := same c.client
    rw [callsOf_cons, if_pos rfl] at first
    obtain ⟨earlier, later, rfl, others, _, rest⟩ := List.filter_eq_cons_iff.mp first
    have notFirst : callsOf c.client earlier = [] := List.filter_eq_nil_iff.mpr others
    have own' : ∀ b ∈ earlier, owns b.client b.call.ticket := fun b hb => by
      have made : b ∈ callsOf b.client (earlier ++ c :: later) :=
        mem_callsOf.mpr ⟨List.mem_append_left _ hb, rfl⟩
      rw [same] at made
      exact own b (mem_callsOf.mp made).1
    obtain ⟨hc, own⟩ := List.forall_mem_cons.mp own
    have moved : ∀ b ∈ earlier, c.call.ticket ≠ b.call.ticket := fun b hb hticket => by
      have client := apart _ _ _ (own' b hb) (hticket ▸ hc)
      exact others b hb (decide_eq_true client)
    rw [converse_middle h moved later]
    refine ih own (fun i => ?_) (sound_run h c.time c.call)
    have hi := same i
    rw [callsOf_append, callsOf_cons, callsOf_cons] at hi
    rw [callsOf_append]
    split at hi
    next hci =>
      subst hci
      rw [notFirst, List.nil_append]
      exact rest
    next => exact hi

end Order

section Run

variable {α : Type} [OfScientific α] [Add α] [Sub α] [Mul α] [LE α] [LT α]
  [DecidableLE α] [DecidableLT α] {strategy : Strategy α} {settings : ManagerSettings}
  {start : Time} {s : Clocked Manager} {turns : List (Turn (Clocked Manager) Call Answer)}
  {ι : Type} [DecidableEq ι] {owns : ι → Ticket → Prop} {calls : List (ClientCall ι)}

/-- Clients that see to tickets of their own, after any run: each is answered as if it were alone, and
however their calls come in between each other's, the manager is the same in the end. -/
theorem submitters_undisturbed (run : Run (Call.perform strategy settings) ⟨start, empty⟩ turns s)
    (apart : ∀ i j t, owns i t → owns j t → i = j)
    (own : ∀ c ∈ calls, owns c.client c.call.ticket) :
    (∀ i (alone : List (ClientCall ι)),
        alone.map ClientCall.call = (callsOf i calls).map ClientCall.call →
      answersTo i (converse s.state calls).1 = (converse s.state alone).1.map Prod.snd) ∧
    ∀ calls', (∀ i, callsOf i calls' = callsOf i calls) →
      (converse s.state calls').2 = (converse s.state calls).2 := by
  have sound := sound_of_run run sound_empty
  refine ⟨fun i alone same => ?_, fun calls' same => converse_state_eq apart own same sound⟩
  exact answersTo_eq_alone apart i own same sound sound fun _ _ => rfl

/-- Two clients complete their calls on one model with two slots, one of them between the calls of the
other. -/
theorem slots_returned_in_turn : ∃ turns s,
    Run (Call.perform (.firstCome : Strategy Double) ⟨seconds 60, 2⟩) ⟨0, empty⟩ turns s ∧
      s.state.slots.busy "m" = 2 ∧
      let calls := [⟨false, 5, .takeResult 1⟩, ⟨true, 5, .complete 2 .success⟩, ⟨false, 5, .complete 1 .success⟩,
        ⟨true, 5, .takeResult 2⟩, ⟨false, 5, .status 1⟩]
      answersTo true (converse s.state calls).1 = [.completed (.ok .completed), .result none] ∧
        (converse s.state (callsOf false calls ++ callsOf true calls)).2 = (converse s.state calls).2 ∧
        (converse s.state calls).2.slots.busy "m" = 0 := by
  let request : Call := .add "" [⟨"m", "p", 1, .normal⟩]
  let calls : List (ClientCall Bool) := [⟨false, 5, .takeResult 1⟩, ⟨true, 5, .complete 2 .success⟩,
    ⟨false, 5, .complete 1 .success⟩, ⟨true, 5, .takeResult 2⟩, ⟨false, 5, .status 1⟩]
  have played : (play (Call.perform (.firstCome : Strategy Double) ⟨seconds 60, 2⟩)
      [request, request, .tick .unguarded, .tick .unguarded] ⟨0, empty⟩).toOption.map (fun r =>
        (r.2.state.slots.busy "m", (converse r.2.state (callsOf true calls)).1.map Prod.snd,
          (converse r.2.state calls).2.slots.busy "m")) =
      some (2, [.completed (.ok .completed), .result none], 0) := by decide +kernel
  obtain ⟨turns, s, run, hview⟩ := Run.exists_of_play played
  obtain ⟨busy, answers, free⟩ := Prod.mk.inj hview |>.imp_right Prod.mk.inj
  let ticketOf (client : Bool) : Ticket := if client then 2 else 1
  have distinct : ∀ i j, ticketOf i = ticketOf j → i = j := by decide
  have apart (i j : Bool) (t : Ticket) (hi : t = ticketOf i) (hj : t = ticketOf j) : i = j :=
    distinct i j (hi.symm.trans hj)
  have own : ∀ c ∈ calls, c.call.ticket = ticketOf c.client := by decide
  have reordered (i : Bool) : callsOf i (callsOf false calls ++ callsOf true calls) = callsOf i calls := by
    cases i <;> rfl
  obtain ⟨undisturbed, order⟩ := submitters_undisturbed run apart own
  exact ⟨turns, s, run, busy, (undisturbed true _ rfl).trans answers, order _ reordered, free⟩

end Run

end Manager

end InferenceDispatch
