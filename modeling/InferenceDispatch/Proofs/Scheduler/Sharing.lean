import InferenceDispatch.Proofs.Queue.Changes
import InferenceDispatch.Proofs.Scheduler.Calls

namespace InferenceDispatch

namespace Scheduler

/-- A call on the scheduler, or one on its queue that the scheduler does not see. -/
inductive SharedCall where
  | own (call : Call)
  | direct (call : Queue.Call)

namespace SharedCall

def enqueued : SharedCall → List TaskId
  | own call => call.enqueued
  | direct call => call.enqueued

def MovesElsewhere (q : Queue) : SharedCall → Prop
  | own call => call.MovesElsewhere q
  | direct call => call.MovesElsewhere q.entries

end SharedCall

def booked (s : Scheduler) (task : TaskId) : List EntryId := (s.waiting.get? task).getD []

/-- The queue is as it is found at a time, and the books have no entry of another task. -/
structure Owned (s : Scheduler) (now : Time) : Prop where
  timely : s.queue.Timely now
  issued : ∀ task, ∀ id ∈ s.booked task, id ≤ s.queue.issued
  own : ∀ task, ∀ e ∈ s.queue.entries, e.id ∈ s.booked task → e.task.id = task

/-- An entry is in the books, or it is the only one of its task. -/
def Whole (s : Scheduler) : Prop := ∀ e ∈ s.queue.entries, e.id ∈ s.booked e.task.id ∨
  ∀ o ∈ s.queue.entries, o.task.id = e.task.id → o = e

theorem owned_empty (now : Time) : empty.Owned now :=
  ⟨Queue.timely_empty now, by simp [booked, empty, Table.empty, Table.get?],
    by simp [empty, Queue.empty]⟩

theorem whole_empty : empty.Whole := by simp [Whole, empty, Queue.empty]

/-- What a call does to the books and the queue: it books only new entries, strikes off only entries that
are gone, and an entry it lets in past the books is the only one it lets in. -/
structure Onward (tasks : List TaskId) (s s' : Scheduler) : Prop where
  queue : Queue.Onward tasks s.queue s'.queue
  booked : ∀ task, ∀ id ∈ s'.booked task, id ∈ s.booked task ∨
    s.queue.issued < id ∧ ∃ e ∈ s'.queue.entries, e.id = id ∧ e.task.id = task
  kept : ∀ e ∈ s'.queue.entries, e.task.id ∉ tasks → e.id ∈ s.booked e.task.id →
    e.id ∈ s'.booked e.task.id
  alone : ∀ e ∈ s'.queue.entries, s.queue.issued < e.id → e.id ∈ s'.booked e.task.id ∨
    ∀ o ∈ s'.queue.entries, s.queue.issued < o.id → o = e

theorem Owned.onward {s s' : Scheduler} {now later : Time} {tasks : List TaskId} (h : s.Owned now)
    (timely : s'.queue.Timely later) (step : Onward tasks s s') : s'.Owned later where
  timely := timely
  issued := by
    intro task id hid
    rcases step.booked task id hid with hid | ⟨_, e, he, rfl, _⟩
    · exact Nat.le_trans (h.issued task id hid) step.queue.issued
    · exact timely.filed.issued e he
  own := by
    intro task e' he' hid
    rcases step.booked task e'.id hid with hid | ⟨_, o, ho, hoe, rfl⟩
    · rcases step.queue.entries e' he' with ⟨e, he, hee, ht⟩ | ⟨hnew, _⟩
      · exact ht ▸ h.own task e he (hee ▸ hid)
      · exact absurd (h.issued task e'.id hid) (Nat.not_le.mpr hnew)
    · rw [timely.filed.eq_of_id_eq ho he' hoe]

theorem Whole.onward {s s' : Scheduler} {tasks : List TaskId} (h : s.Whole) (filed : s'.queue.Filed)
    (step : Onward tasks s s') (fresh : ∀ task ∈ tasks, ¬s.queue.Holds task) : s'.Whole := by
  -- what is left of a task that was in the queue was there before
  have old : ∀ e ∈ s.queue.entries, ∀ o' ∈ s'.queue.entries, o'.task.id = e.task.id →
      ∃ o ∈ s.queue.entries, o.id = o'.id ∧ o.task = o'.task := by
    intro e he o' ho' ht
    rcases step.queue.entries o' ho' with ho | ⟨_, htask⟩
    · exact ho
    · exact absurd ⟨e, he, rfl⟩ (fresh e.task.id (ht ▸ htask))
  intro e' he'
  rcases step.queue.entries e' he' with ⟨e, he, hid, ht⟩ | ⟨hnew, htask⟩
  · rcases h e he with hbooked | honly
    · refine Or.inl (step.kept e' he' (fun htask => ?_) (hid ▸ ht ▸ hbooked))
      exact fresh e'.task.id htask ⟨e, he, congrArg Task.id ht⟩
    · refine Or.inr fun o' ho' hot => ?_
      obtain ⟨o, ho, hoid, hotask⟩ := old e he o' ho' (hot.trans (congrArg Task.id ht.symm))
      obtain rfl := honly o ho ((congrArg Task.id hotask).trans (hot.trans (congrArg Task.id ht.symm)))
      exact filed.eq_of_id_eq ho' he' (hoid.symm.trans hid)
  · rcases step.alone e' he' hnew with hbooked | honly
    · exact Or.inl hbooked
    · refine Or.inr fun o' ho' hot => ?_
      rcases step.queue.entries o' ho' with ⟨o, ho, _, hotask⟩ | ⟨hnew', _⟩
      · exact absurd ⟨o, ho, (congrArg Task.id hotask).trans hot⟩ (fresh e'.task.id htask)
      · exact honly o' ho' hnew'

section Changes

variable (now : Time) (tasks : List TaskId)

theorem changes_removeEach (q : Queue) (ids : List EntryId) :
    Queue.Changes now tasks q (removeEach q ids).1 := by
  unfold removeEach
  generalize 0 = n
  induction ids generalizing q n with
  | nil => exact .refl
  | cons id ids ih => exact (q.changes_remove now tasks id).trans (ih _ _)

theorem changes_enqueueEach (task : Task) (q : Queue) (cs : List Candidate) :
    Queue.Changes now [task.id] q (enqueueEach task now q cs).1 := by
  induction cs generalizing q with
  | nil => exact .refl
  | cons c cs ih => exact .head (.enqueue _ c.priority List.mem_cons_self) (ih _)

theorem changes_claim? {s s' : Scheduler} {winner : EntryId} {won : Scheduled}
    (hc : s.claim? winner now = some (won, s')) : Queue.Changes now tasks s.queue s'.queue := by
  obtain ⟨⟨e, q⟩, ht, hs⟩ := Option.map_eq_some_iff.mp hc
  obtain ⟨_, rfl⟩ := Prod.mk.inj hs
  exact (Queue.changes_take? ht).trans (changes_removeEach now tasks q _)

end Changes

section Removal

theorem removeEach_without {q : Queue} (h : q.Filed) (ids : List EntryId) :
    q.Without ids (removeEach q ids).1 := by
  unfold removeEach
  generalize 0 = n
  induction ids generalizing q n with
  | nil => exact .none q
  | cons id ids ih =>
    obtain ⟨_, _, filed, _⟩ := Queue.remove_spec h id
    exact (Queue.Without.remove h id).trans (ih filed _)

theorem booked_erase (s : Scheduler) (queue : Queue) (task : TaskId) (issued : Nat) (t : TaskId) :
    booked ⟨queue, s.waiting.erase task, issued⟩ t = if t = task then [] else s.booked t := by
  unfold booked
  rw [Table.get?_erase]
  split <;> rfl

theorem claim?_without {s : Scheduler} (h : s.queue.Filed) {e : Entry} (he : e ∈ s.queue.entries)
    (now : Time) : ∃ queue,
      s.claim? e.id now = some (⟨e.task, e.id, e.key, e.tier, e.waited now⟩,
        ⟨queue, s.waiting.erase e.task.id, s.issued⟩) ∧
      s.queue.Without (e.id :: (s.booked e.task.id).filter (· ≠ e.id)) queue := by
  have hf : s.queue.find? e.id = some e := h.find?_eq_some_iff.mpr ⟨he, rfl⟩
  obtain ⟨⟨o, q⟩, ht⟩ : ∃ r, s.queue.take? e.id = some r := by simp [Queue.take?, hf]
  obtain ⟨ho, hid, _, _, filed⟩ := Queue.take?_eq_some h ht
  obtain rfl := h.eq_of_id_eq ho he hid
  refine ⟨_, ?_, (Queue.Without.take? h ht).trans (removeEach_without filed _)⟩
  rw [claim?, ht]
  rfl

end Removal

section Withdrawal

theorem booked_strike (waiting : Table TaskId (List EntryId)) (e : Entry) (task : TaskId) :
    ((strike waiting e).1.get? task).getD [] =
      struck (fun t => (waiting.get? t).getD []) [e] task := by
  rw [struck_single]
  unfold strike
  split
  next hg =>
    split
    next ht => simp [ht, hg]
    next => rfl
  next ids hg =>
    split
    next hnil =>
      rw [Table.get?_erase]
      by_cases ht : task = e.task.id
      · simpa [ht, hg] using hnil.symm
      · simp [ht]
    next left hleft =>
      rw [Table.get?_insert]
      by_cases ht : task = e.task.id
      · simp [ht, hg]
      · simp [ht]

theorem booked_strikes (removed : List Entry) (waiting : Table TaskId (List EntryId)) (task : TaskId) :
    ((strikes waiting removed).get? task).getD [] =
      struck (fun t => (waiting.get? t).getD []) removed task := by
  induction removed generalizing waiting with
  | nil => exact (List.filter_eq_self.mpr fun id _ => by simp).symm
  | cons e removed ih =>
    have struck_one : (fun t => ((strike waiting e).1.get? t).getD []) =
        struck (fun t => (waiting.get? t).getD []) [e] := funext (booked_strike waiting e)
    rw [struck_cons, ← struck_one]
    exact ih _

theorem booked_withdraw (s : Scheduler) (provider : String) (task : TaskId) :
    (s.withdraw provider).1.booked task =
      struck s.booked (s.queue.removeProvider provider).2 task := by
  rw [withdraw_eq]
  exact booked_strikes ..

end Withdrawal

theorem booked_enqueue (s : Scheduler) (task : Task) (now : Time) {new : List Entry}
    (hids : (enqueueEach task now s.queue task.candidates).2 = new.map Entry.id) (t : TaskId) :
    (s.enqueue task now).1.booked t =
      if t = task.id ∧ new ≠ [] then new.map Entry.id else s.booked t := by
  unfold enqueue booked
  simp only [hids, List.isEmpty_iff, List.map_eq_nil_iff]
  by_cases hnil : new = []
  · simp [hnil]
  · by_cases ht : t = task.id <;> simp [hnil, ht, Table.get?_insert]

section Steps

variable {s s' : Scheduler} {now : Time} (h : s.Owned now)
include h

theorem Owned.fewer (queue : Queue.Onward [] s.queue s'.queue)
    (booked : ∀ task, s'.booked task ⊆ s.booked task)
    (kept : ∀ e ∈ s'.queue.entries, e.id ∈ s.booked e.task.id → e.id ∈ s'.booked e.task.id) :
    Onward [] s s' where
  queue := queue
  booked := fun task id hid => Or.inl (booked task hid)
  kept := fun e he _ => kept e he
  alone := by
    intro e' he' hnew
    rcases queue.entries e' he' with ⟨e, he, hid, _⟩ | ⟨_, htask⟩
    · exact absurd (h.timely.filed.issued e he) (hid ▸ Nat.not_le.mpr hnew)
    · simp at htask

theorem Owned.unbooked {queue : Queue} (hq : Queue.Onward [] s.queue queue) :
    Onward [] s { s with queue } :=
  h.fewer hq (fun _ => List.Subset.refl _) fun _ _ hid => hid

theorem Owned.without {ids : List EntryId} {queue : Queue} (hq : s.queue.Without ids queue)
    {task : TaskId} (all : s.booked task ⊆ ids) (issued : Nat) :
    Onward [] s ⟨queue, s.waiting.erase task, issued⟩ := by
  refine h.fewer (.of_fewer hq.issued ?_) (fun t => ?_) fun e he hid => ?_
  · rw [hq.entries]
    exact List.filter_subset_self _
  · rw [booked_erase]
    split
    · exact List.nil_subset _
    · exact List.Subset.refl _
  · rw [booked_erase]
    split
    next ht => exact absurd (all (ht ▸ hid)) (hq.not_mem he)
    next => exact hid

theorem Owned.withdraw (provider : String) : Onward [] s (s.withdraw provider).1 := by
  have hq : Queue.Onward [] s.queue (s.withdraw provider).1.queue :=
    h.timely.onward_changes (.single (.removeProvider provider))
  refine h.fewer hq (fun task => ?_) fun e he hid => ?_
  · rw [booked_withdraw]
    exact List.filter_subset_self _
  · rw [booked_withdraw]
    refine List.mem_filter.mpr ⟨hid, decide_eq_true fun o ho _ hoe => ?_⟩
    obtain ⟨he, hkept⟩ := List.mem_filter.mp he
    obtain ⟨ho, hgone⟩ := List.mem_filter.mp ((Queue.removed_perm s.queue provider).mem_iff.mp ho)
    rw [h.timely.filed.eq_of_id_eq ho he hoe] at hgone
    exact of_decide_eq_true hkept (of_decide_eq_true hgone)

theorem Owned.issued_lt {task : Task} {new : List Entry}
    (hentries : (enqueueEach task now s.queue task.candidates).1.entries = s.queue.entries ++ new) :
    ∀ e ∈ new, s.queue.issued < e.id := by
  intro e he
  have hc := changes_enqueueEach now task s.queue task.candidates
  have nodup := (h.timely.changes hc).filed.nodup_ids
  rw [hentries, List.map_append] at nodup
  rcases (h.timely.onward_changes hc).entries e (hentries ▸ List.mem_append_right _ he) with
    ⟨o, ho, hoe, _⟩ | ⟨hlt, _⟩
  · -- no number stands both among the old entries and among the new ones
    exact absurd hoe ((List.nodup_append.mp nodup).2.2 _ (List.mem_map_of_mem ho) _
      (List.mem_map_of_mem he))
  · exact hlt

theorem Owned.enqueue (task : Task) : Onward [task.id] s (s.enqueue task now).1 := by
  obtain ⟨_, new, hentries, hids, _, hnew⟩ :=
    enqueueEach_spec task now task.candidates h.timely.filed
  have hbooked := booked_enqueue s task now hids
  have hq : (s.enqueue task now).1.queue.entries = s.queue.entries ++ new := hentries
  have issued := h.issued_lt hentries
  refine ⟨h.timely.onward_changes (changes_enqueueEach now task s.queue _), fun t id hid => ?_,
    fun e _ htask hid => ?_, fun e he hlt => Or.inl ?_⟩
  · rw [hbooked] at hid
    split at hid
    next ht =>
      obtain ⟨e, he, rfl⟩ := List.mem_map.mp hid
      refine Or.inr ⟨issued e he, e, ?_, rfl, ?_⟩
      · rw [hq]
        exact List.mem_append_right _ he
      · rw [(hnew e he).1, ht.1]
    next => exact Or.inl hid
  · rw [hbooked, if_neg fun ht => htask (List.mem_singleton.mpr ht.1)]
    exact hid
  · rw [hq] at he
    rcases List.mem_append.mp he with he | he
    · exact absurd (h.timely.filed.issued e he) (Nat.not_le.mpr hlt)
    · rw [hbooked, if_pos ⟨congrArg Task.id (hnew e he).1, List.ne_nil_of_mem he⟩]
      exact List.mem_map_of_mem he

theorem Owned.direct {c : Queue.Call} {queue : Queue} {a : Queue.Answer}
    (hc : c.run now s.queue = .ok (queue, a)) : Onward c.enqueued s { s with queue } := by
  have hq := h.timely.onward (Queue.Call.outcome hc)
  have quiet : c.enqueued = [] → Onward c.enqueued s { s with queue } := by
    intro hnil
    rw [hnil] at hq ⊢
    exact h.unbooked hq
  cases c with
  | enqueue task key tier =>
    cases hc
    have new : ∀ e ∈ (s.queue.enqueue task key tier now).1.entries, s.queue.issued < e.id →
        e = s.queue.entryFor task key tier now := by
      intro e he hlt
      rcases List.mem_append.mp he with he | he
      · exact absurd (h.timely.filed.issued e he) (Nat.not_le.mpr hlt)
      · exact List.mem_singleton.mp he
    refine ⟨hq, fun _ _ hid => Or.inl hid, fun _ _ _ hid => hid, fun e he hlt => Or.inr fun o ho hlt' => ?_⟩
    rw [new e he hlt, new o ho hlt']
  | dequeue | dequeueEntry | remove | removeProvider | move | peek | peekEntry | entry | counts
  | modelCounts | modelDepth | keys | isEmpty | depth | waitingLongerThan | advance =>
    exact quiet rfl

end Steps

section Perform

variable {α : Type} [OfScientific α] [Add α] [Sub α] [Mul α] [LE α] [LT α]
  [DecidableLE α] [DecidableLT α] {strategy : Strategy α}

/-- What a call does. Only a move can fail. -/
def SharedCall.perform (strategy : Strategy α) (c : SharedCall) (s : Clocked Scheduler) :
    Except Queue.MoveFault (Effect (Clocked Scheduler) (Answer ⊕ Queue.Answer)) :=
  match c with
  | own call => (call.perform strategy s).map fun e => e.map Sum.inl
  | direct call => (call.run s.now s.state.queue).map fun (queue, a) =>
    .answerOnly ⟨s.now + call.span, { s.state with queue }⟩ (.inr a)

theorem Call.outcome {c : Call} {s : Clocked Scheduler} {e : Effect (Clocked Scheduler) Answer}
    (hc : c.perform strategy s = .ok e) :
    (∃ span, e.state.now = s.now + span) ∧ Queue.Outcome s.now c.enqueued
      (c.MovesElsewhere s.state.queue) s.state.queue e.state.state.queue := by
  cases c with
  | enqueue task =>
    cases hc
    exact ⟨⟨0, rfl⟩, .changed (changes_enqueueEach s.now task s.state.queue task.candidates)⟩
  | schedule gate slots =>
    rw [Call.perform] at hc
    split at hc
    next =>
      cases hc
      exact ⟨⟨0, rfl⟩, .changed .refl⟩
    next hs =>
      cases hc
      obtain ⟨_, _, hclaim⟩ := Option.bind_eq_some_iff.mp hs
      exact ⟨⟨0, rfl⟩, .changed (changes_claim? s.now _ hclaim)⟩
  | cancel task =>
    cases hc
    exact ⟨⟨0, rfl⟩, .changed (changes_removeEach s.now _ s.state.queue _)⟩
  | withdraw provider =>
    cases hc
    exact ⟨⟨0, rfl⟩, .changed (.single (.removeProvider provider))⟩
  | move entry tier =>
    obtain ⟨⟨queue, there⟩, hm, rfl⟩ := except_map_eq_ok_iff.mp hc
    exact ⟨⟨0, rfl⟩, .moved (fun elsewhere => elsewhere) hm⟩
  | advance span =>
    cases hc
    exact ⟨⟨span, rfl⟩, .changed .refl⟩

theorem schedule_of_choose {s : Scheduler} (h : s.queue.Filed) {g : Gate} {w : WorkTable} {e : Entry}
    (hc : strategy.choose g w s.queue = some e) (now : Time) : ∃ queue,
      s.schedule strategy g w now = some (⟨e.task, e.id, e.key, e.tier, e.waited now⟩,
        ⟨queue, s.waiting.erase e.task.id, s.issued⟩) ∧
      s.queue.Without (e.id :: (s.booked e.task.id).filter (· ≠ e.id)) queue := by
  have he := (Strategy.mem_heads h (Strategy.choose_mem hc)).1
  obtain ⟨queue, hclaim, hq⟩ := claim?_without h he now
  exact ⟨queue, by rw [schedule, hc]; exact hclaim, hq⟩

theorem schedule_cases {s : Scheduler} (h : s.queue.Filed) (strategy : Strategy α) (g : Gate)
    (w : WorkTable) (now : Time) :
    (∀ key, ¬g.Servable w s.queue key) ∧ s.schedule strategy g w now = none ∨
      ∃ won s', g.Servable w s.queue won.key ∧ s.schedule strategy g w now = some (won, s') := by
  cases hc : strategy.choose g w s.queue with
  | none =>
    have nothing := (Strategy.heads_eq_nil_iff h).mp (Strategy.choose_eq_none_iff.mp hc)
    exact Or.inl ⟨nothing, by rw [schedule, hc]; rfl⟩
  | some e =>
    obtain ⟨queue, hs, _⟩ := schedule_of_choose h hc now
    exact Or.inr ⟨_, _, ((Strategy.mem_heads_iff h).mp (Strategy.choose_mem hc)).2, hs⟩

theorem Owned.call {c : Call} {s : Clocked Scheduler} {e : Effect (Clocked Scheduler) Answer}
    (h : s.state.Owned s.now) (hc : c.perform strategy s = .ok e) :
    Onward c.enqueued s.state e.state.state := by
  cases c with
  | enqueue task =>
    cases hc
    exact h.enqueue task
  | schedule gate slots =>
    rw [Call.perform] at hc
    split at hc
    next =>
      cases hc
      exact h.unbooked (.refl _)
    next hs =>
      cases hc
      obtain ⟨head, hchoose, _⟩ := Option.bind_eq_some_iff.mp hs
      obtain ⟨queue, hs', hq⟩ := schedule_of_choose h.timely.filed hchoose s.now
      obtain ⟨_, rfl⟩ := Prod.mk.inj (Option.some.inj (hs.symm.trans hs'))
      refine h.without hq (fun id hid => List.mem_cons.mpr ?_) _
      by_cases heq : id = head.id
      · exact Or.inl heq
      · exact Or.inr (List.mem_filter.mpr ⟨hid, by simpa using heq⟩)
  | cancel task =>
    cases hc
    exact h.without (removeEach_without h.timely.filed _) (List.Subset.refl _) _
  | withdraw provider =>
    cases hc
    exact h.withdraw provider
  | move entry tier =>
    obtain ⟨⟨queue, there⟩, hm, rfl⟩ := except_map_eq_ok_iff.mp hc
    exact h.unbooked (h.timely.filed.onward_move hm)
  | advance span =>
    cases hc
    exact h.unbooked (.refl _)

namespace SharedCall

variable {c : SharedCall} {s : Clocked Scheduler}
  {e : Effect (Clocked Scheduler) (Answer ⊕ Queue.Answer)}

theorem outcome (hc : c.perform strategy s = .ok e) :
    (∃ span, e.state.now = s.now + span) ∧ Queue.Outcome s.now c.enqueued
      (c.MovesElsewhere s.state.queue) s.state.queue e.state.state.queue := by
  cases c with
  | own call =>
    obtain ⟨r, hr, rfl⟩ := except_map_eq_ok_iff.mp hc
    exact Call.outcome hr
  | direct call =>
    obtain ⟨⟨queue, a⟩, hr, rfl⟩ := except_map_eq_ok_iff.mp hc
    exact ⟨⟨call.span, rfl⟩, Queue.Call.outcome hr⟩

theorem timely (h : s.state.queue.Timely s.now) (hc : c.perform strategy s = .ok e) :
    e.state.state.queue.Timely e.state.now := by
  obtain ⟨⟨span, hspan⟩, hq⟩ := outcome hc
  rw [hspan]
  exact (h.outcome hq).later span

theorem orderly (h : s.state.queue.Orderly s.now) (elsewhere : c.MovesElsewhere s.state.queue)
    (hc : c.perform strategy s = .ok e) : e.state.state.queue.Orderly e.state.now := by
  obtain ⟨⟨span, hspan⟩, hq⟩ := outcome hc
  rw [hspan]
  exact (h.outcome elsewhere hq).later span

theorem onward (h : s.state.Owned s.now) (hc : c.perform strategy s = .ok e) :
    Onward c.enqueued s.state e.state.state := by
  cases c with
  | own call =>
    obtain ⟨r, hr, rfl⟩ := except_map_eq_ok_iff.mp hc
    exact h.call hr
  | direct call =>
    obtain ⟨⟨queue, a⟩, hr, rfl⟩ := except_map_eq_ok_iff.mp hc
    exact h.direct hr

theorem owned (h : s.state.Owned s.now) (hc : c.perform strategy s = .ok e) :
    e.state.state.Owned e.state.now :=
  h.onward (timely h.timely hc) (onward h hc)

end SharedCall

section Runs

variable {start : Time} {turns : List (Turn (Clocked Scheduler) SharedCall (Answer ⊕ Queue.Answer))}
  {s : Clocked Scheduler}

def letIn (turns : List (Turn (Clocked Scheduler) SharedCall (Answer ⊕ Queue.Answer))) : List TaskId :=
  turns.flatMap fun turn => turn.call.enqueued

theorem owned_of_run (run : Run (SharedCall.perform strategy) ⟨start, empty⟩ turns s) :
    s.state.Owned s.now :=
  run.keeps (I := fun s => s.state.Owned s.now) (fun _ _ _ h hc => SharedCall.owned h hc)
    (owned_empty start)

theorem orderly_of_run (run : Run (SharedCall.perform strategy) ⟨start, empty⟩ turns s)
    (elsewhere : ∀ turn ∈ turns, turn.call.MovesElsewhere turn.before.state.queue) :
    s.state.queue.Orderly s.now := by
  induction run with
  | start => exact Queue.orderly_empty start
  | @next turns s c e _ hc ih =>
    have last := elsewhere ⟨s, c, e⟩ (List.mem_append_right _ List.mem_cons_self)
    exact SharedCall.orderly (ih fun turn ht => elsewhere turn (List.mem_append_left _ ht)) last hc

/-- If no task was let in twice, an entry that the books miss is the only one of its task. -/
theorem whole_of_run (run : Run (SharedCall.perform strategy) ⟨start, empty⟩ turns s)
    (once : (letIn turns).Nodup) : s.state.Whole := by
  suffices held : s.state.Whole ∧ ∀ task, s.state.queue.Holds task → task ∈ letIn turns from held.1
  induction run with
  | start => exact ⟨whole_empty, fun task ht => by simp [Queue.Holds, empty, Queue.empty] at ht⟩
  | @next turns s c e run hc ih =>
    have all : letIn (turns ++ [⟨s, c, e⟩]) = letIn turns ++ c.enqueued := by simp [letIn]
    rw [all] at once ⊢
    obtain ⟨onceEarlier, _, apart⟩ := List.nodup_append.mp once
    obtain ⟨whole, held⟩ := ih onceEarlier
    have owned := owned_of_run run
    have step := SharedCall.onward owned hc
    refine ⟨whole.onward (SharedCall.owned owned hc).timely.filed step ?_, ?_⟩
    · exact fun task htask ht => apart task (held task ht) task htask rfl
    · rintro task ⟨e', he', rfl⟩
      rcases step.queue.entries e' he' with ⟨o, ho, _, ht⟩ | ⟨_, htask⟩
      · exact List.mem_append_left _ (held _ ⟨o, ho, congrArg Task.id ht⟩)
      · exact List.mem_append_right _ htask

end Runs

end Perform

end Scheduler

end InferenceDispatch
