import InferenceDispatch.Proofs.Queue.Filing
import InferenceDispatch.Scheduling.Scheduler

namespace InferenceDispatch

namespace Queue

def numbersOf (q : Queue) (task : TaskId) : List EntryId :=
  (q.entries.filter fun e => e.task.id = task).map Entry.id

theorem mem_numbersOf {q : Queue} {task : TaskId} {id : EntryId} :
    id ∈ q.numbersOf task ↔ ∃ e ∈ q.entries, e.task.id = task ∧ e.id = id := by
  simp [numbersOf, and_assoc]

theorem numbersOf_eq_nil_iff {q : Queue} {task : TaskId} :
    q.numbersOf task = [] ↔ ∀ e ∈ q.entries, e.task.id ≠ task := by
  simp [numbersOf]

theorem numbersOf_without {q q' : Queue} {task : TaskId}
    (h : q'.entries = q.entries.filter fun e => e.task.id ≠ task) (t : TaskId) :
    q'.numbersOf t = if t = task then [] else q.numbersOf t := by
  split
  next ht =>
    subst ht
    rw [numbersOf_eq_nil_iff, h]
    intro e he
    simpa using (List.mem_filter.mp he).2
  next ht =>
    unfold numbersOf
    rw [h, List.filter_filter]
    congr 1
    refine List.filter_congr fun e _ => ?_
    by_cases he : e.task.id = t <;> simp [he, ht]

theorem numbersOf_append {q q' : Queue} {task : TaskId} {new : List Entry}
    (h : q'.entries = q.entries ++ new) (fresh : ∀ e ∈ q.entries, e.task.id ≠ task)
    (own : ∀ e ∈ new, e.task.id = task) (t : TaskId) :
    q'.numbersOf t = if t = task then new.map Entry.id else q.numbersOf t := by
  unfold numbersOf
  rw [h, List.filter_append, List.map_append]
  split
  next ht =>
    subst ht
    have old : q.entries.filter (fun e => e.task.id = t) = [] := by simpa using fresh
    have all : new.filter (fun e => e.task.id = t) = new :=
      List.filter_eq_self.mpr fun e hm => by simp [own e hm]
    rw [old, all, List.map_nil, List.nil_append]
  next ht =>
    have none_new : new.filter (fun e => e.task.id = t) = [] :=
      List.filter_eq_nil_iff.mpr fun e hm => by simp [own e hm, Ne.symm ht]
    rw [none_new, List.map_nil, List.append_nil]

end Queue

/-- A table lists, for every task that has any, just the numbers that `f` has for it. -/
def Lists (waiting : Table TaskId (List EntryId)) (f : TaskId → List EntryId) : Prop :=
  ∀ task ids, waiting.get? task = some ids ↔ ids ≠ [] ∧ ids = f task

namespace Lists

variable {waiting : Table TaskId (List EntryId)} {f : TaskId → List EntryId} (h : Lists waiting f)
include h

theorem get?_eq_none {task : TaskId} (empty : f task = []) : waiting.get? task = none := by
  cases hg : waiting.get? task with
  | none => rfl
  | some ids =>
    obtain ⟨hne, rfl⟩ := (h task ids).mp hg
    exact absurd empty hne

theorem get?_eq_some {task : TaskId} (some_left : f task ≠ []) : waiting.get? task = some (f task) :=
  (h task _).mpr ⟨some_left, rfl⟩

theorem getD_get? (task : TaskId) : (waiting.get? task).getD [] = f task := by
  by_cases he : f task = []
  · rw [h.get?_eq_none he, he, Option.getD_none]
  · rw [h.get?_eq_some he, Option.getD_some]

theorem erase (task : TaskId) : Lists (waiting.erase task) fun t => if t = task then [] else f t := by
  intro t ids
  by_cases ht : t = task
  · simp [Table.get?_erase, ht]
  · simpa [Table.get?_erase, ht] using h t ids

theorem insert (task : TaskId) {ids : List EntryId} (hne : ids ≠ []) :
    Lists (waiting.insert task ids) fun t => if t = task then ids else f t := by
  intro t l
  by_cases ht : t = task
  · simp only [Table.get?_insert, ht, ↓reduceIte, Option.some.injEq]
    constructor
    · rintro rfl
      exact ⟨hne, rfl⟩
    · rintro ⟨_, rfl⟩
      rfl
  · simpa [Table.get?_insert, ht] using h t l

theorem congr {g : TaskId → List EntryId} (hg : ∀ t, f t = g t) : Lists waiting g :=
  fun task ids => hg task ▸ h task ids

end Lists

namespace Scheduler

/-- The lanes are in order, the books list the entries of every task, and entries with one task
number belong to one task. -/
structure Exact (s : Scheduler) : Prop where
  filed : s.queue.Filed
  waiting : Lists s.waiting s.queue.numbersOf
  oneTask : ∀ a ∈ s.queue.entries, ∀ b ∈ s.queue.entries, a.task.id = b.task.id → a.task = b.task

theorem exact_empty : empty.Exact :=
  ⟨Queue.filed_empty, fun _ _ => by simp [empty, Queue.empty, Queue.numbersOf, eq_comm],
    by simp [empty, Queue.empty]⟩

theorem Exact.without {s : Scheduler} (h : s.Exact) {q : Queue} {task : TaskId} (filed : q.Filed)
    (hq : q.entries = s.queue.entries.filter fun e => e.task.id ≠ task) (issued : Nat) :
    Exact ⟨q, s.waiting.erase task, issued⟩ where
  filed := filed
  waiting := (h.waiting.erase task).congr fun t => (Queue.numbersOf_without hq t).symm
  oneTask := by
    intro a ha b hb
    rw [show (Scheduler.mk q (s.waiting.erase task) issued).queue = q from rfl, hq] at ha hb
    exact h.oneTask a (List.mem_of_mem_filter ha) b (List.mem_of_mem_filter hb)

section Enqueue

theorem enqueueEach_spec (task : Task) (now : Time) (cs : List Candidate) {q : Queue}
    (h : q.Filed) :
    (enqueueEach task now q cs).1.Filed ∧ ∃ new,
      (enqueueEach task now q cs).1.entries = q.entries ++ new ∧
      (enqueueEach task now q cs).2 = new.map Entry.id ∧ new.length = cs.length ∧
      ∀ e ∈ new, e.task = task ∧ ∃ c ∈ cs, e.key = ⟨c.model, c.provider⟩ := by
  induction cs generalizing q with
  | nil => exact ⟨h, [], by simp [enqueueEach]⟩
  | cons c cs ih =>
    let key : QueueKey := ⟨c.model, c.provider⟩
    obtain ⟨filed, new, he, hid, hlen, hnew⟩ :=
      ih (Queue.filed_enqueue task key c.priority now h)
    refine ⟨filed, q.entryFor task key c.priority now :: new, ?_, ?_, ?_, ?_⟩
    · rw [enqueueEach]
      simp only [he, Queue.entries_enqueue, List.append_assoc, List.singleton_append, key]
    · rw [enqueueEach]
      simp only [hid, List.map_cons, key]
      rfl
    · simp [hlen]
    · intro e hm
      rcases List.mem_cons.mp hm with rfl | hm
      · exact ⟨rfl, c, List.mem_cons_self, rfl⟩
      · obtain ⟨ht, c', hc', hk⟩ := hnew e hm
        exact ⟨ht, c', List.mem_cons_of_mem _ hc', hk⟩

theorem enqueue_spec {s : Scheduler} (h : s.Exact) {task : Task} (now : Time)
    (fresh : ∀ e ∈ s.queue.entries, e.task.id ≠ task.id) :
    (s.enqueue task now).1.Exact ∧ (s.enqueue task now).1.issued = s.issued ∧ ∃ new,
      (s.enqueue task now).1.queue.entries = s.queue.entries ++ new ∧
      (s.enqueue task now).2 = new.map Entry.id ∧ new.length = task.candidates.length ∧
      ∀ e ∈ new, e.task = task ∧ ∃ c ∈ task.candidates, e.key = ⟨c.model, c.provider⟩ := by
  obtain ⟨filed, new, he, hid, hlen, hnew⟩ := enqueueEach_spec task now task.candidates h.filed
  have numbers := Queue.numbersOf_append he fresh fun e hm => congrArg Task.id (hnew e hm).1
  refine ⟨⟨filed, ?_, ?_⟩, rfl, new, he, hid, hlen, hnew⟩
  · unfold enqueue
    simp only [hid, List.isEmpty_iff]
    split
    next hnil =>
      refine h.waiting.congr fun t => ?_
      rw [numbers t]
      split
      next ht => rw [hnil, ht, Queue.numbersOf_eq_nil_iff.mpr fresh]
      next => rfl
    next hne => exact (h.waiting.insert task.id hne).congr fun t => (numbers t).symm
  · intro a ha b hb hab
    rw [show (s.enqueue task now).1.queue = (enqueueEach task now s.queue task.candidates).1 from rfl,
      he] at ha hb
    rcases List.mem_append.mp ha with ha | ha <;> rcases List.mem_append.mp hb with hb | hb
    · exact h.oneTask a ha b hb hab
    · exact absurd (hab.trans (congrArg Task.id (hnew b hb).1)) (fresh a ha)
    · exact absurd (hab.symm.trans (congrArg Task.id (hnew a ha).1)) (fresh b hb)
    · exact (hnew a ha).1.trans (hnew b hb).1.symm

end Enqueue

section Remove

theorem removeEach_spec (ids : List EntryId) {q : Queue} (h : q.Filed) :
    (removeEach q ids).1.entries = q.entries.filter (fun e => e.id ∉ ids) ∧
      (removeEach q ids).1.issued = q.issued ∧ (removeEach q ids).1.Filed := by
  unfold removeEach
  generalize 0 = n
  induction ids generalizing q n with
  | nil => exact ⟨by simp, rfl, h⟩
  | cons id ids ih =>
    obtain ⟨he, hi, hf, _⟩ := Queue.remove_spec h id
    obtain ⟨he', hi', hf'⟩ := ih hf (if (q.remove id).2 then n + 1 else n)
    refine ⟨?_, hi'.trans hi, hf'⟩
    rw [List.foldl_cons, he', he, List.filter_filter]
    refine List.filter_congr fun e _ => ?_
    simp [Bool.and_comm]

theorem Exact.filter_numbersOf {s : Scheduler} (h : s.Exact) (task : TaskId) :
    (s.queue.entries.filter fun e => e.id ∉ s.queue.numbersOf task) =
      s.queue.entries.filter fun e => e.task.id ≠ task := by
  refine List.filter_congr fun e he => ?_
  rw [decide_eq_decide, Queue.mem_numbersOf, not_iff_not]
  constructor
  · rintro ⟨o, ho, ht, hid⟩
    exact h.filed.eq_of_id_eq ho he hid ▸ ht
  · intro ht
    exact ⟨e, he, ht, rfl⟩

/-- Taking the winner out takes out all entries of its task. -/
theorem claim?_spec {s s' : Scheduler} (h : s.Exact) {winner : EntryId} {now : Time}
    {won : Scheduled} (hc : s.claim? winner now = some (won, s')) :
    s'.Exact ∧ s'.issued = s.issued ∧ ∃ e ∈ s.queue.entries, e.id = winner ∧
      won = ⟨e.task, e.id, e.key, e.tier, e.waited now⟩ ∧
      s'.queue.entries = s.queue.entries.filter fun o => o.task.id ≠ e.task.id := by
  obtain ⟨⟨e, q⟩, ht, hs⟩ := Option.map_eq_some_iff.mp hc
  obtain ⟨rfl, rfl⟩ := Prod.mk.inj hs
  obtain ⟨he, rfl, hq, _, hf⟩ := Queue.take?_eq_some h.filed ht
  let others := ((s.waiting.get? e.task.id).getD []).filter fun id => id ≠ e.id
  obtain ⟨he', _, hf'⟩ := removeEach_spec others hf
  have left : (removeEach q others).1.entries =
      s.queue.entries.filter fun o => o.task.id ≠ e.task.id := by
    rw [he', hq, List.filter_filter, ← h.filter_numbersOf]
    refine List.filter_congr fun o _ => ?_
    have own : e.id ∈ s.queue.numbersOf e.task.id := Queue.mem_numbersOf.mpr ⟨e, he, rfl, rfl⟩
    by_cases ho : o.id = e.id
    · simp [ho, own]
    · simp [others, h.waiting.getD_get?, ho]
  exact ⟨h.without hf' left s.issued, rfl, e, he, rfl, rfl, left⟩

theorem cancel_spec {s : Scheduler} (h : s.Exact) (task : TaskId) :
    (s.cancel task).1.Exact ∧ (s.cancel task).1.issued = s.issued ∧
      (s.cancel task).1.queue.entries = s.queue.entries.filter fun e => e.task.id ≠ task := by
  obtain ⟨he, _, hf⟩ := removeEach_spec (s.queue.numbersOf task) h.filed
  rw [h.filter_numbersOf] at he
  have left : (s.cancel task).1 = ⟨(removeEach s.queue (s.queue.numbersOf task)).1,
      s.waiting.erase task, s.issued⟩ := by
    simp only [cancel, h.waiting.getD_get?]
  rw [left]
  exact ⟨h.without hf he s.issued, rfl, he⟩

end Remove

section Withdraw

/-- What is left of the numbers of every task when some entries are struck off. -/
def struck (f : TaskId → List EntryId) (removed : List Entry) (task : TaskId) : List EntryId :=
  (f task).filter fun id => ∀ e ∈ removed, e.task.id = task → e.id ≠ id

theorem struck_cons (f : TaskId → List EntryId) (e : Entry) (removed : List Entry) :
    struck f (e :: removed) = struck (struck f [e]) removed := by
  funext task
  unfold struck
  rw [List.filter_filter]
  refine List.filter_congr fun id _ => ?_
  simp [Bool.and_comm]

theorem struck_single (f : TaskId → List EntryId) (e : Entry) (task : TaskId) :
    struck f [e] task =
      if task = e.task.id then (f task).filter (fun id => id ≠ e.id) else f task := by
  unfold struck
  split
  next ht =>
    refine List.filter_congr fun id _ => ?_
    simp [ht, eq_comm]
  next ht => exact List.filter_eq_self.mpr fun id _ => by simp [Ne.symm ht]

theorem mem_struck {f : TaskId → List EntryId} {e x : Entry} {removed : List Entry}
    (hid : e.id ∉ removed.map Entry.id) (hx : x ∈ removed) (listed : x.id ∈ f x.task.id) :
    x.id ∈ struck f [e] x.task.id := by
  have hne : x.id ≠ e.id := fun hxe => hid (hxe ▸ List.mem_map_of_mem hx)
  refine List.mem_filter.mpr ⟨listed, ?_⟩
  simp [Ne.symm hne]

/-- Striking one entry off takes its number from its task, and gives the task if it had that one left. -/
theorem strike_spec {waiting : Table TaskId (List EntryId)} {f : TaskId → List EntryId}
    (h : Lists waiting f) (e : Entry) :
    Lists (strike waiting e).1 (struck f [e]) ∧ (strike waiting e).2 =
      if e.id ∈ f e.task.id ∧ struck f [e] e.task.id = [] then some e.task else none := by
  have own : struck f [e] e.task.id = (f e.task.id).filter fun id => id ≠ e.id := by
    rw [struck_single, if_pos rfl]
  unfold strike
  by_cases unlisted : f e.task.id = []
  · rw [h.get?_eq_none unlisted]
    refine ⟨h.congr fun t => ?_, by simp [unlisted]⟩
    rw [struck_single]
    split
    next ht => simp [ht, unlisted]
    next => rfl
  · simp only [h.get?_eq_some unlisted]
    split
    next hnil =>
      obtain ⟨id, hid⟩ := List.exists_mem_of_ne_nil _ unlisted
      have same : id = e.id := by simpa using List.filter_eq_nil_iff.mp hnil id hid
      refine ⟨(h.erase e.task.id).congr fun t => ?_, by rw [own, hnil, if_pos ⟨same ▸ hid, rfl⟩]⟩
      rw [struck_single]
      split
      next ht => rw [ht, hnil]
      next => rfl
    next left hleft =>
      refine ⟨(h.insert e.task.id hleft).congr fun t => ?_, by rw [own, if_neg fun hs => hleft hs.2]⟩
      rw [struck_single]
      split
      next ht => rw [ht]
      next => rfl

/-- What is left of the books when some entries are struck off in turn. -/
def strikes (waiting : Table TaskId (List EntryId)) (removed : List Entry) : Table TaskId (List EntryId) :=
  removed.foldl (fun waiting e => (strike waiting e).1) waiting

/-- The tasks that lose their last booked entry when some entries are struck off in turn. -/
def orphansOf (waiting : Table TaskId (List EntryId)) : List Entry → List Task
  | [] => []
  | e :: removed => (strike waiting e).2.toList ++ orphansOf (strike waiting e).1 removed

theorem foldl_strike (removed : List Entry) (waiting : Table TaskId (List EntryId))
    (before : List Task) : removed.foldl (fun (waiting, orphans) e =>
      let (waiting, orphan) := strike waiting e
      (waiting, orphans ++ orphan.toList)) (waiting, before) =
      (strikes waiting removed, before ++ orphansOf waiting removed) := by
  induction removed generalizing waiting before with
  | nil =>
    rw [orphansOf, List.append_nil]
    rfl
  | cons e removed ih =>
    rw [List.foldl_cons, orphansOf, ← List.append_assoc]
    exact ih _ _

theorem withdraw_eq (s : Scheduler) (provider : String) : s.withdraw provider =
    ({ s with
       queue := (s.queue.removeProvider provider).1
       waiting := strikes s.waiting (s.queue.removeProvider provider).2 },
      orphansOf s.waiting (s.queue.removeProvider provider).2) := by
  unfold withdraw
  simp only [foldl_strike, List.nil_append]

variable {waiting : Table TaskId (List EntryId)} {f : TaskId → List EntryId} {removed : List Entry}

theorem lists_strikes (removed : List Entry) (h : Lists waiting f) :
    Lists (strikes waiting removed) (struck f removed) := by
  induction removed generalizing waiting f with
  | nil => exact h.congr fun t => (List.filter_eq_self.mpr fun id _ => by simp).symm
  | cons e removed ih =>
    rw [struck_cons]
    exact ih (strike_spec h e).1

theorem lists_withdraw {s : Scheduler} (h : Lists s.waiting f) (provider : String) :
    Lists (s.withdraw provider).1.waiting (struck f (s.queue.removeProvider provider).2) := by
  rw [withdraw_eq]
  exact lists_strikes _ h

theorem exists_of_mem_orphansOf (h : Lists waiting f) {task : Task}
    (ht : task ∈ orphansOf waiting removed) : ∃ e ∈ removed, e.task = task ∧ e.id ∈ f task.id := by
  induction removed generalizing waiting f with
  | nil => cases ht
  | cons e removed ih =>
    obtain ⟨hw, ho⟩ := strike_spec h e
    rcases List.mem_append.mp ht with ht | ht
    · rw [ho, Option.mem_toList] at ht
      split at ht
      next last =>
        cases ht
        exact ⟨e, List.mem_cons_self, rfl, last.1⟩
      next => cases ht
    · obtain ⟨x, hx, hxt, listed⟩ := ih hw ht
      exact ⟨x, List.mem_cons_of_mem e hx, hxt, List.mem_of_mem_filter listed⟩

theorem nodup_orphansOf (h : Lists waiting f) : ((orphansOf waiting removed).map Task.id).Nodup := by
  induction removed generalizing waiting f with
  | nil => exact List.nodup_nil
  | cons e removed ih =>
    obtain ⟨hw, ho⟩ := strike_spec h e
    rw [orphansOf, ho]
    split
    next last =>
      refine List.nodup_cons.mpr ⟨fun hm => ?_, ih hw⟩
      obtain ⟨task, ht, hte⟩ := List.mem_map.mp hm
      obtain ⟨x, _, _, listed⟩ := exists_of_mem_orphansOf hw ht
      rw [hte, last.2] at listed
      cases listed
    next => exact ih hw

theorem nodup_orphans {s : Scheduler} (h : Lists s.waiting f) (provider : String) :
    ((s.withdraw provider).2.map Task.id).Nodup := by
  rw [withdraw_eq]
  exact nodup_orphansOf h

/-- The task of the first entry struck off is an orphan at once, or it becomes one with a later entry. -/
theorem mem_orphans_cons {e : Entry}
    (oneTask : ∀ a ∈ e :: removed, ∀ b ∈ e :: removed, a.task.id = b.task.id → a.task = b.task)
    (task : Task) :
    (task ∈ (if struck f [e] e.task.id = [] then some e.task else none).toList ∨
      (∃ x ∈ removed, x.task = task) ∧ struck (struck f [e]) removed task.id = []) ↔
    (∃ x ∈ e :: removed, x.task = task) ∧ struck (struck f [e]) removed task.id = [] := by
  by_cases hnil : struck f [e] e.task.id = []
  · have left : struck (struck f [e]) removed e.task.id = [] := by
      rw [struck, hnil, List.filter_nil]
    simp only [hnil, ↓reduceIte, Option.toList_some, List.mem_cons, List.not_mem_nil, or_false,
      exists_eq_or_imp]
    constructor
    · rintro (ht | ⟨hx, hs⟩)
      · exact ⟨Or.inl ht.symm, ht ▸ left⟩
      · exact ⟨Or.inr hx, hs⟩
    · rintro ⟨ht | hx, hs⟩
      · exact Or.inl ht.symm
      · exact Or.inr ⟨hx, hs⟩
  · simp only [hnil, ↓reduceIte, Option.toList_none, List.not_mem_nil, false_or,
      List.mem_cons, exists_eq_or_imp]
    refine and_congr_left fun hs => ⟨Or.inr, ?_⟩
    rintro (rfl | hx)
    · obtain ⟨id, hid⟩ := List.exists_mem_of_ne_nil _ hnil
      have struck_later := List.filter_eq_nil_iff.mp hs id hid
      simp only [decide_eq_true_eq, not_forall, not_not] at struck_later
      obtain ⟨y, hy, hye, _⟩ := struck_later
      exact ⟨y, hy, oneTask y (List.mem_cons_of_mem _ hy) e List.mem_cons_self hye⟩
    · exact hx

/-- Where all entries that are struck off were listed, every task that has lost its last one is an orphan. -/
theorem mem_orphansOf (h : Lists waiting f) (nodup : (removed.map Entry.id).Nodup)
    (listed : ∀ e ∈ removed, e.id ∈ f e.task.id)
    (oneTask : ∀ a ∈ removed, ∀ b ∈ removed, a.task.id = b.task.id → a.task = b.task) (task : Task) :
    task ∈ orphansOf waiting removed ↔
      (∃ e ∈ removed, e.task = task) ∧ struck f removed task.id = [] := by
  induction removed generalizing waiting f with
  | nil => simp [orphansOf]
  | cons e removed ih =>
    obtain ⟨hid, nodup⟩ := List.nodup_cons.mp nodup
    obtain ⟨hw, ho⟩ := strike_spec h e
    simp only [listed e List.mem_cons_self, true_and] at ho
    have later := ih hw nodup
      (fun x hx => mem_struck hid hx (listed x (List.mem_cons_of_mem _ hx)))
      (fun a ha b hb => oneTask a (List.mem_cons_of_mem _ ha) b (List.mem_cons_of_mem _ hb))
    rw [orphansOf, List.mem_append, later, ho, struck_cons f e removed]
    exact mem_orphans_cons oneTask task

/-- Withdrawing a provider takes out its entries and gives the tasks that have none left. -/
theorem withdraw_spec {s : Scheduler} (h : s.Exact) (provider : String) :
    (s.withdraw provider).1.Exact ∧ (s.withdraw provider).1.issued = s.issued ∧
      (s.withdraw provider).1.queue.entries =
        s.queue.entries.filter (fun e => e.key.provider ≠ provider) ∧
      ((s.withdraw provider).2.map Task.id).Nodup ∧
      ∀ task, task ∈ (s.withdraw provider).2 ↔ (∃ e ∈ s.queue.entries, e.task = task) ∧
        ∀ e ∈ (s.withdraw provider).1.queue.entries, e.task.id ≠ task.id := by
  let removed := (s.queue.removeProvider provider).2
  let q := (s.queue.removeProvider provider).1
  have hq : q.entries = s.queue.entries.filter fun e => e.key.provider ≠ provider := rfl
  have perm : removed.Perm (s.queue.entries.filter fun e => e.key.provider = provider) :=
    Queue.removed_perm s.queue provider
  have mem : ∀ e, e ∈ removed ↔ e ∈ s.queue.entries ∧ e.key.provider = provider := by
    intro e
    rw [perm.mem_iff]
    simp
  have nodup : (removed.map Entry.id).Nodup :=
    (perm.map Entry.id).nodup_iff.mpr (h.filed.nodup_ids.sublist (List.filter_sublist.map _))
  have hmem := mem_orphansOf h.waiting nodup
    (fun e he => Queue.mem_numbersOf.mpr ⟨e, ((mem e).mp he).1, rfl, rfl⟩)
    (fun a ha b hb => h.oneTask a ((mem a).mp ha).1 b ((mem b).mp hb).1)
  have left : ∀ task, struck s.queue.numbersOf removed task = q.numbersOf task := by
    intro task
    unfold struck Queue.numbersOf
    rw [hq, List.filter_map, List.filter_filter, List.filter_filter]
    congr 1
    refine List.filter_congr fun e he => ?_
    have kept : (∀ r ∈ removed, r.task.id = task → r.id ≠ e.id) ∧ e.task.id = task ↔
        e.task.id = task ∧ e.key.provider ≠ provider := by
      rw [and_comm]
      refine and_congr_right fun ht => ⟨fun hall hp => ?_, fun hp r hr _ hid => ?_⟩
      · exact hall e ((mem e).mpr ⟨he, hp⟩) ht rfl
      · obtain ⟨hr, hrp⟩ := (mem r).mp hr
        exact hp (h.filed.eq_of_id_eq hr he hid ▸ hrp)
    exact Bool.eq_iff_iff.mpr (by simpa using kept)
  refine ⟨⟨Queue.filed_removeProvider provider h.filed, (lists_withdraw h.waiting provider).congr left, ?_⟩,
    rfl, hq, nodup_orphans h.waiting provider, ?_⟩
  · intro a ha b hb
    exact h.oneTask a (List.mem_of_mem_filter ha) b (List.mem_of_mem_filter hb)
  · intro task
    rw [withdraw_eq, hmem, left, Queue.numbersOf_eq_nil_iff]
    refine and_congr_left fun none_left => ⟨?_, ?_⟩
    · rintro ⟨e, he, rfl⟩
      exact ⟨e, ((mem e).mp he).1, rfl⟩
    · rintro ⟨e, he, rfl⟩
      refine ⟨e, (mem e).mpr ⟨he, ?_⟩, rfl⟩
      by_contra hp
      exact none_left e (hq ▸ List.mem_filter.mpr ⟨he, by simpa using hp⟩) rfl

end Withdraw

theorem move_spec {s : Scheduler} (h : s.Exact) {id : EntryId} {tier : Priority} {now : Time}
    {q : Queue} {there : Bool} (hm : s.queue.move id tier now = .ok (q, there)) :
    Exact { s with queue := q } ∧ q.entries = s.queue.entries.map (Queue.moved id tier now) := by
  obtain ⟨he, _, hf, _⟩ := Queue.move_spec h.filed hm
  have numbers : ∀ t, s.queue.numbersOf t = q.numbersOf t := by
    intro t
    unfold Queue.numbersOf
    rw [he, List.filter_map, List.map_map]
    simp [Function.comp_def]
  refine ⟨⟨hf, h.waiting.congr numbers, ?_⟩, he⟩
  simp only [he, List.forall_mem_map, Queue.moved_task]
  exact h.oneTask

end Scheduler

end InferenceDispatch
