import InferenceDispatch.Proofs.Queue.Order
import InferenceDispatch.Proofs.Queue.PlainQueue
import Mathlib.Logic.Relation

namespace InferenceDispatch

namespace Queue

inductive Change (now : Time) (tasks : List TaskId) (q : Queue) : Queue → Prop
  | enqueue {task : Task} (key : QueueKey) (tier : Priority) :
    task.id ∈ tasks → Change now tasks q (q.enqueue task key tier now).1
  | take {id : EntryId} {e : Entry} {q' : Queue} : q.take? id = some (e, q') → Change now tasks q q'
  | removeProvider (provider : String) : Change now tasks q (q.removeProvider provider).1

def Changes (now : Time) (tasks : List TaskId) : Queue → Queue → Prop :=
  Relation.ReflTransGen (Change now tasks)

/-- What a call did to the queue: it changed it, or it moved an entry, out of its tier if the call is to move
entries elsewhere. -/
inductive Outcome (now : Time) (tasks : List TaskId) (elsewhere : Prop) (q q' : Queue) : Prop
  | changed : Changes now tasks q q' → Outcome now tasks elsewhere q q'
  | moved {id : EntryId} {tier : Priority} {there : Bool} :
    (elsewhere → ∀ e ∈ q.entries, e.id = id → e.tier ≠ tier) →
      q.move id tier now = .ok (q', there) → Outcome now tasks elsewhere q q'

/-- A queue after some calls: the entries are those of before, moved perhaps, and entries of the given
tasks whose numbers were not given out before. -/
structure Onward (tasks : List TaskId) (q q' : Queue) : Prop where
  issued : q.issued ≤ q'.issued
  entries : ∀ e' ∈ q'.entries, (∃ e ∈ q.entries, e.id = e'.id ∧ e.task = e'.task) ∨
    q.issued < e'.id ∧ e'.task.id ∈ tasks

namespace Onward

variable {q q' q'' : Queue} {tasks : List TaskId}

theorem refl (q : Queue) : Onward tasks q q :=
  ⟨Nat.le_refl _, fun e he => Or.inl ⟨e, he, rfl, rfl⟩⟩

theorem trans (first : Onward tasks q q') (last : Onward tasks q' q'') : Onward tasks q q'' := by
  refine ⟨Nat.le_trans first.issued last.issued, fun e'' he'' => ?_⟩
  rcases last.entries e'' he'' with ⟨e', he', hid', ht'⟩ | ⟨hnew, htask⟩
  · rcases first.entries e' he' with ⟨e, he, hid, ht⟩ | ⟨hnew, htask⟩
    · exact Or.inl ⟨e, he, hid.trans hid', ht.trans ht'⟩
    · exact Or.inr ⟨hid' ▸ hnew, ht' ▸ htask⟩
  · exact Or.inr ⟨Nat.lt_of_le_of_lt first.issued hnew, htask⟩

theorem of_fewer (issued : q'.issued = q.issued) (entries : q'.entries ⊆ q.entries) :
    Onward tasks q q' :=
  ⟨Nat.le_of_eq issued.symm, fun e he => Or.inl ⟨e, entries he, rfl, rfl⟩⟩

end Onward

section Keeping

variable {q q' : Queue} {now : Time} {tasks : List TaskId}

theorem Timely.change (h : q.Timely now) (hc : Change now tasks q q') : q'.Timely now := by
  cases hc with
  | enqueue key tier _ => exact h.enqueue _ key tier
  | take ht => exact h.take? ht
  | removeProvider provider => exact h.removeProvider provider

theorem Orderly.change (h : q.Orderly now) (hc : Change now tasks q q') : q'.Orderly now := by
  cases hc with
  | enqueue key tier _ => exact h.enqueue _ key tier
  | take ht => exact h.take? ht
  | removeProvider provider => exact h.removeProvider provider

theorem Filed.onward (h : q.Filed) (hc : Change now tasks q q') : Onward tasks q q' := by
  cases hc with
  | enqueue key tier htask =>
    refine ⟨Nat.le_succ _, fun e he => ?_⟩
    rcases List.mem_append.mp he with he | he
    · exact Or.inl ⟨e, he, rfl, rfl⟩
    · obtain rfl := List.mem_singleton.mp he
      exact Or.inr ⟨Nat.lt_succ_self _, htask⟩
  | take ht =>
    obtain ⟨_, _, hentries, hissued, _⟩ := take?_eq_some h ht
    exact .of_fewer hissued (hentries ▸ List.filter_subset_self _)
  | removeProvider provider => exact .of_fewer rfl (List.filter_subset_self _)

theorem Filed.onward_move (h : q.Filed) {id : EntryId} {tier : Priority} {there : Bool}
    (hm : q.move id tier now = .ok (q', there)) : Onward tasks q q' := by
  obtain ⟨hentries, hissued, _⟩ := move_spec h hm
  refine ⟨Nat.le_of_eq hissued.symm, fun e' he' => ?_⟩
  rw [hentries] at he'
  obtain ⟨e, he, rfl⟩ := List.mem_map.mp he'
  exact Or.inl ⟨e, he, by simp, by simp⟩

theorem Timely.changes (h : q.Timely now) (hc : Changes now tasks q q') : q'.Timely now := by
  induction hc with
  | refl => exact h
  | tail _ hlast ih => exact ih.change hlast

theorem Orderly.changes (h : q.Orderly now) (hc : Changes now tasks q q') : q'.Orderly now := by
  induction hc with
  | refl => exact h
  | tail _ hlast ih => exact ih.change hlast

theorem Timely.outcome {elsewhere : Prop} (h : q.Timely now)
    (ho : Outcome now tasks elsewhere q q') : q'.Timely now := by
  cases ho with
  | changed hc => exact h.changes hc
  | moved _ hm => exact h.move hm

theorem Orderly.outcome {elsewhere : Prop} (h : q.Orderly now) (he : elsewhere)
    (ho : Outcome now tasks elsewhere q q') : q'.Orderly now := by
  cases ho with
  | changed hc => exact h.changes hc
  | moved apart hm => exact h.of_move (apart he) hm

theorem Timely.onward_changes (h : q.Timely now) (hc : Changes now tasks q q') :
    Onward tasks q q' := by
  induction hc with
  | refl => exact .refl q
  | tail hearlier hlast ih => exact ih.trans ((h.changes hearlier).filed.onward hlast)

theorem Timely.onward {elsewhere : Prop} (h : q.Timely now) (ho : Outcome now tasks elsewhere q q') :
    Onward tasks q q' := by
  cases ho with
  | changed hc => exact h.onward_changes hc
  | moved _ hm => exact h.filed.onward_move hm

end Keeping

/-- `q'` is `q` without the entries of some numbers: the other entries are as they were, in the same lanes
and in the same order. -/
structure Without (q : Queue) (ids : List EntryId) (q' : Queue) : Prop where
  issued : q'.issued = q.issued
  keys : q'.keys = q.keys
  entries : q'.entries = q.entries.filter fun e => e.id ∉ ids
  lanes : ∀ key tier, q'.lane key tier = (q.lane key tier).filter fun id => id ∉ ids

namespace Without

variable {q q' q'' : Queue} {ids later : List EntryId}

theorem none (q : Queue) : q.Without [] q := ⟨rfl, rfl, by simp, by simp⟩

theorem trans (first : q.Without ids q') (last : q'.Without later q'') :
    q.Without (ids ++ later) q'' where
  issued := last.issued.trans first.issued
  keys := last.keys.trans first.keys
  entries := by
    rw [last.entries, first.entries, List.filter_filter]
    exact List.filter_congr fun e _ => by simp [Bool.and_comm]
  lanes := by
    intro key tier
    rw [last.lanes, first.lanes, List.filter_filter]
    exact List.filter_congr fun id _ => by simp [Bool.and_comm]

theorem take? (h : q.Filed) {id : EntryId} {e : Entry} (ht : q.take? id = some (e, q')) :
    q.Without [id] q' := by
  have hlanes := lane_take? h ht
  obtain ⟨_, _, hentries, hissued, _⟩ := take?_eq_some h ht
  refine ⟨hissued, ?_, by simpa using hentries, by simpa using hlanes⟩
  obtain ⟨_, _, heq⟩ := Option.map_eq_some_iff.mp ht
  obtain ⟨_, rfl⟩ := Prod.mk.inj heq
  rfl

theorem remove (h : q.Filed) (id : EntryId) : q.Without [id] (q.remove id).1 := by
  unfold Queue.remove
  cases ht : q.take? id with
  | some r => exact .take? h ht
  | none =>
    have absent := take?_eq_none_iff.mp ht
    refine ⟨rfl, rfl, ?_, fun key tier => ?_⟩
    · exact (List.filter_eq_self.mpr fun e he => by simpa using absent e he).symm
    · refine (List.filter_eq_self.mpr fun x hx => ?_).symm
      obtain ⟨e, he, rfl, _⟩ := (h.mem_lane key tier x).mp hx
      simpa using absent e he

theorem not_mem (h : q.Without ids q') {e : Entry} (he : e ∈ q'.entries) : e.id ∉ ids := by
  rw [h.entries] at he
  simpa using (List.mem_filter.mp he).2

end Without

theorem changes_take? {q q' : Queue} {now : Time} {tasks : List TaskId} {id : EntryId} {e : Entry}
    (ht : q.take? id = some (e, q')) : Changes now tasks q q' := .single (.take ht)

theorem changes_remove (q : Queue) (now : Time) (tasks : List TaskId) (id : EntryId) :
    Changes now tasks q (q.remove id).1 := by
  unfold remove
  split
  next ht => exact changes_take? ht
  next => exact .refl

namespace Call

def enqueued : Call → List TaskId
  | enqueue task _ _ => [task.id]
  | _ => []

theorem outcome {c : Call} {q q' : Queue} {now : Time} {a : Answer} (hc : c.run now q = .ok (q', a)) :
    Outcome now c.enqueued (c.MovesElsewhere q.entries) q q' := by
  cases c with
  | enqueue task key tier =>
    cases hc
    exact .changed (.single (.enqueue key tier List.mem_cons_self))
  | dequeue key only =>
    rw [run] at hc
    split at hc
    next ht =>
      cases hc
      obtain ⟨_, _, ht⟩ := Option.bind_eq_some_iff.mp ht
      exact .changed (changes_take? ht)
    next =>
      cases hc
      exact .changed .refl
  | dequeueEntry id =>
    rw [run] at hc
    split at hc
    next ht =>
      cases hc
      exact .changed (changes_take? ht)
    next =>
      cases hc
      exact .changed .refl
  | remove id =>
    cases hc
    exact .changed (changes_remove q now _ id)
  | removeProvider provider =>
    cases hc
    exact .changed (.single (.removeProvider provider))
  | move id tier =>
    obtain ⟨⟨q', there⟩, hm, ha⟩ := except_map_eq_ok_iff.mp hc
    cases ha
    exact .moved (fun elsewhere => elsewhere) hm
  | peek | peekEntry | entry | counts | modelCounts | modelDepth | keys | isEmpty | depth
  | waitingLongerThan | advance =>
    cases hc
    exact .changed .refl

end Call

section Runs

variable {start : Time} {turns : List (Turn (Clocked Queue) Call Answer)} {s : Clocked Queue}

theorem timely_of_run (run : Run Call.perform ⟨start, empty⟩ turns s) : s.state.Timely s.now := by
  refine run.keeps (I := fun s => s.state.Timely s.now) ?_ (timely_empty start)
  intro c s e h hc
  obtain ⟨⟨q, a⟩, hr, rfl⟩ := except_map_eq_ok_iff.mp hc
  exact (h.outcome (Call.outcome hr)).later c.span

theorem orderly_of_run (run : Run Call.perform ⟨start, empty⟩ turns s)
    (elsewhere : ∀ turn ∈ turns, turn.call.MovesElsewhere turn.before.state.entries) :
    s.state.Orderly s.now := by
  induction run with
  | start => exact orderly_empty start
  | @next turns s c e run hc ih =>
    obtain ⟨⟨q, a⟩, hr, rfl⟩ := except_map_eq_ok_iff.mp hc
    have h := ih fun turn ht => elsewhere turn (List.mem_append_left _ ht)
    have last := elsewhere ⟨s, c, _⟩ (List.mem_append_right _ List.mem_cons_self)
    exact (h.outcome last (Call.outcome hr)).later c.span

end Runs

end Queue

end InferenceDispatch
