import InferenceDispatch.Number.Double
import InferenceDispatch.Proofs.Scheduler.Sharing
import Mathlib.Data.Prod.Lex

namespace InferenceDispatch

namespace Entry

def arrival (e : Entry) : Nat ×ₗ Nat := toLex (e.enqueuedAt, e.id)

theorem before_iff_arrival {a b : Entry} : a.before b ↔ a.arrival < b.arrival := by
  rw [arrival, arrival, Prod.Lex.toLex_lt_toLex]
  simp [before]

theorem pairwise_sortByArrival {l : List Entry} (nodup : (l.map id).Nodup) :
    (sortByArrival l).Pairwise fun a b => a.before b := by
  have le_iff : ∀ a b : Entry, (!b.before a) = true ↔ a.arrival ≤ b.arrival := by
    intro a b
    rw [← not_lt, ← before_iff_arrival, Bool.not_eq_true', Bool.not_eq_true]
  have sorted : (sortByArrival l).Pairwise fun a b => !b.before a := by
    refine List.pairwise_mergeSort (fun a b c => ?_) (fun a b => ?_) l
    · simp only [le_iff]
      exact le_trans
    · rw [Bool.or_eq_true, le_iff, le_iff]
      exact le_total _ _
  have distinct : ((sortByArrival l).map id).Nodup :=
    ((List.mergeSort_perm l _).map id).nodup_iff.mpr nodup
  refine (sorted.and (List.pairwise_map.mp distinct)).imp fun {a b} h => ?_
  refine before_iff_arrival.mpr (lt_of_le_of_ne ((le_iff a b).mp h.1) fun heq => h.2 ?_)
  exact congrArg (fun x => (ofLex x).2) heq

end Entry

namespace Queue

/-- Of the entries that a task has at a provider, the one that came last. -/
structure LatestAt (q : Queue) (provider : String) (task : Task) (e : Entry) : Prop where
  waiting : e ∈ q.entries
  ofProvider : e.key.provider = provider
  ofTask : e.task = task
  latest : ∀ o ∈ q.entries, o.key.provider = provider → o.task = task → o ≠ e → o.before e

/-- No entry waits for the provider, and no key of it is left. -/
structure Rid (q : Queue) (provider : String) : Prop where
  entries : ∀ e ∈ q.entries, e.key.provider ≠ provider
  keys : ∀ key ∈ q.keys, key.provider ≠ provider

variable {q q' : Queue} {now : Time} {provider : String}

theorem LatestAt.unique {task : Task} {x y : Entry} (hx : q.LatestAt provider task x)
    (hy : q.LatestAt provider task y) : x = y := by
  by_contra hne
  have first := hx.latest y hy.waiting hy.ofProvider hy.ofTask (Ne.symm hne)
  have last := hy.latest x hx.waiting hx.ofProvider hx.ofTask hne
  rw [Entry.before_iff_arrival] at first last
  exact lt_asymm first last

theorem mem_removed {e : Entry} :
    e ∈ (q.removeProvider provider).2 ↔ e ∈ q.entries ∧ e.key.provider = provider := by
  rw [(removed_perm q provider).mem_iff, List.mem_filter, decide_eq_true_eq]

theorem pairwise_removed (h : q.Filed) (provider : String) :
    (q.removeProvider provider).2.Pairwise fun a b => a.before b :=
  Entry.pairwise_sortByArrival (h.nodup_ids.sublist (List.filter_sublist.map _))

theorem rid_removeProvider (q : Queue) (provider : String) : (q.removeProvider provider).1.Rid provider where
  entries := fun e he => by simpa using (List.mem_filter.mp he).2
  keys := by
    intro key hkey
    simpa using (List.mem_filter.mp hkey).2

theorem Rid.removeProvider (h : q.Rid provider) (filed : q.Filed) :
    q.removeProvider provider = (q, []) := by
  have keys : q.keys.filter (fun key => key.provider ≠ provider) = q.keys :=
    List.filter_eq_self.mpr fun key hkey => by simpa using h.keys key hkey
  have entries : q.entries.filter (fun e => e.key.provider ≠ provider) = q.entries :=
    List.filter_eq_self.mpr fun e he => by simpa using h.entries e he
  have none_removed : q.entries.filter (fun e => e.key.provider = provider) = [] :=
    List.filter_eq_nil_iff.mpr fun e he => by simpa using h.entries e he
  have lanes : q.lanes.filter (fun key _ => key.provider ≠ provider) = q.lanes :=
    Table.filter_eq_self fun key l hl => by simpa using h.keys key (filed.mem_keys.mpr ⟨l, hl⟩)
  unfold Queue.removeProvider
  rw [keys, entries, none_removed, lanes, Entry.sortByArrival, List.mergeSort_nil]

theorem Rid.outcome {elsewhere : Prop} (h : q.Rid provider) (timely : q.Timely now)
    (ho : Outcome now [] elsewhere q q') : q'.Rid provider := by
  cases ho with
  | changed hc =>
    induction hc with
    | refl => exact h
    | tail hearlier hlast ih =>
      cases hlast with
      | enqueue _ _ htask => cases htask
      | take ht =>
        have hq := Without.take? (timely.changes hearlier).filed ht
        refine ⟨fun e he => ih.entries e ?_, fun key hkey => ih.keys key (hq.keys ▸ hkey)⟩
        exact List.mem_of_mem_filter (hq.entries ▸ he)
      | removeProvider other =>
        exact ⟨fun e he => ih.entries e (List.mem_of_mem_filter he),
          fun key hkey => ih.keys key (List.mem_of_mem_filter hkey)⟩
  | moved _ hm =>
    rcases move_cases timely.filed hm with ⟨_, rfl, _⟩ | ⟨e, _, _, _, l, _, place, _, rfl⟩
    · exact h
    · refine ⟨?_, h.keys⟩
      simp only [List.forall_mem_map, moved_key]
      exact h.entries

end Queue

namespace Scheduler

/-- The books have a line just for the tasks with a number there, and what they miss of a task is older than
all that they have of it. -/
structure Recent (s : Scheduler) : Prop where
  lists : Lists s.waiting s.booked
  older : ∀ e ∈ s.queue.entries, e.id ∉ s.booked e.task.id → ∀ id ∈ s.booked e.task.id, e.id < id

theorem recent_empty : empty.Recent where
  lists := fun _ _ => by simp [empty, booked]
  older := by simp [empty, Queue.empty]

section Strikes

variable {waiting : Table TaskId (List EntryId)} {f : TaskId → List EntryId} {removed : List Entry}

/-- Each orphan is given where the last of its listed entries is struck off. -/
theorem exists_ends {R : Entry → Entry → Prop} (sorted : removed.Pairwise R) (h : Lists waiting f)
    (nodup : (removed.map Entry.id).Nodup) :
    ∃ ends : List Entry, orphansOf waiting removed = ends.map Entry.task ∧ ends.Sublist removed ∧
      ∀ e ∈ ends, e.id ∈ f e.task.id ∧
        ∀ x ∈ removed, x.task.id = e.task.id → x.id ∈ f x.task.id → x ≠ e → R x e := by
  induction removed generalizing waiting f with
  | nil => exact ⟨[], rfl, .refl _, by simp⟩
  | cons e removed ih =>
    obtain ⟨first, sorted⟩ := List.pairwise_cons.mp sorted
    obtain ⟨hid, nodup⟩ := List.nodup_cons.mp nodup
    obtain ⟨hw, ho⟩ := strike_spec h e
    obtain ⟨ends, horphans, hsub, hends⟩ := ih sorted hw nodup
    have later : ∀ a ∈ ends, a.id ∈ f a.task.id ∧
        ∀ x ∈ e :: removed, x.task.id = a.task.id → x.id ∈ f x.task.id → x ≠ a → R x a := by
      intro a ha
      obtain ⟨listed, last⟩ := hends a ha
      refine ⟨List.mem_of_mem_filter listed, List.forall_mem_cons.mpr ⟨?_, fun x hx ht hxl => ?_⟩⟩
      · exact fun _ _ _ => first a (hsub.subset ha)
      · exact last x hx ht (mem_struck hid hx hxl)
    rw [orphansOf, horphans, ho]
    split
    next last =>
      refine ⟨e :: ends, rfl, hsub.cons_cons e, List.forall_mem_cons.mpr ⟨⟨last.1, ?_⟩, later⟩⟩
      refine List.forall_mem_cons.mpr ⟨fun _ _ hne => absurd rfl hne, fun x hx ht hxl _ => ?_⟩
      -- of the task of `e` nothing else is listed
      have left := mem_struck hid hx hxl
      rw [ht, last.2] at left
      cases left
    next => exact ⟨ends, rfl, hsub.cons e, later⟩

end Strikes

/-- A provider that is withdrawn gives its orphans in the order in which the last of their entries came. -/
theorem Recent.exists_latest {s : Scheduler} {now : Time} (h : s.Recent) (timely : s.queue.Timely now)
    (provider : String) : ∃ ends : List Entry, (s.withdraw provider).2 = ends.map Entry.task ∧
      ends.Pairwise (fun a b => a.before b) ∧ ∀ e ∈ ends, s.queue.LatestAt provider e.task e := by
  have nodup : ((s.queue.removeProvider provider).2.map Entry.id).Nodup :=
    ((Queue.removed_perm s.queue provider).map Entry.id).nodup_iff.mpr
      (timely.filed.nodup_ids.sublist (List.filter_sublist.map _))
  have sorted := Queue.pairwise_removed timely.filed provider
  obtain ⟨ends, horphans, hsub, hends⟩ := exists_ends sorted h.lists nodup
  refine ⟨ends, by rw [withdraw_eq, ← horphans], sorted.sublist hsub, fun e he => ?_⟩
  obtain ⟨listed, last⟩ := hends e he
  obtain ⟨hq, hp⟩ := Queue.mem_removed.mp (hsub.subset he)
  refine ⟨hq, hp, rfl, fun o ho hop hot hne => ?_⟩
  by_cases hol : o.id ∈ s.booked o.task.id
  · exact last o (Queue.mem_removed.mpr ⟨ho, hop⟩) (congrArg Task.id hot) hol hne
  · exact (timely.before_iff ho hq).mpr (h.older o ho hol e.id (hot ▸ listed))

section Steps

variable {s s' : Scheduler} {now : Time}

theorem Recent.older_of_onward (h : s.Recent) (owned : s.Owned now) (step : Onward [] s s') :
    ∀ e ∈ s'.queue.entries, e.id ∉ s'.booked e.task.id → ∀ id ∈ s'.booked e.task.id, e.id < id := by
  intro e' he' missed id hid
  rcases step.queue.entries e' he' with ⟨e, he, hee, ht⟩ | ⟨_, htask⟩
  · rcases step.booked e'.task.id id hid with hid | ⟨hnew, _⟩
    · have missed_before : e.id ∉ s.booked e.task.id := fun hb =>
        missed (step.kept e' he' List.not_mem_nil (hee ▸ ht ▸ hb))
      exact hee ▸ h.older e he missed_before id (ht ▸ hid)
    · exact hee ▸ Nat.lt_of_le_of_lt (owned.timely.filed.issued e he) hnew
  · cases htask

theorem Recent.enqueue (h : s.Recent) (owned : s.Owned now) (task : Task) :
    (s.enqueue task now).1.Recent := by
  obtain ⟨_, new, hentries, hids, _, hnew⟩ :=
    enqueueEach_spec task now task.candidates owned.timely.filed
  have hbooked := booked_enqueue s task now hids
  have lists : Lists (s.enqueue task now).1.waiting
      (fun t => if t = task.id ∧ new ≠ [] then new.map Entry.id else s.booked t) := by
    simp only [Scheduler.enqueue, hids, List.isEmpty_iff, List.map_eq_nil_iff]
    split
    next hnil => exact h.lists.congr fun t => by simp [hnil]
    next hne =>
      exact (h.lists.insert task.id (List.map_eq_nil_iff.not.mpr hne)).congr fun t => by simp [hne]
  refine ⟨lists.congr fun t => (hbooked t).symm, fun e he missed id hid => ?_⟩
  rw [show (s.enqueue task now).1.queue.entries = s.queue.entries ++ new from hentries] at he
  rw [hbooked] at missed hid
  rcases List.mem_append.mp he with he | he
  · split at hid
    next =>
      obtain ⟨o, ho, rfl⟩ := List.mem_map.mp hid
      exact Nat.lt_of_le_of_lt (owned.timely.filed.issued e he) (owned.issued_lt hentries o ho)
    next hother =>
      rw [if_neg hother] at missed
      exact h.older e he missed id hid
  · rw [if_pos ⟨congrArg Task.id (hnew e he).1, List.ne_nil_of_mem he⟩] at missed
    exact absurd (List.mem_map_of_mem he) missed

end Steps

theorem withdraw_of_rid {s : Scheduler} {provider : String} (h : s.queue.Rid provider)
    (filed : s.queue.Filed) : s.withdraw provider = (s, []) := by
  unfold withdraw
  rw [h.removeProvider filed]
  rfl

variable {α : Type} [OfScientific α] [Add α] [Sub α] [Mul α] [LE α] [LT α]
  [DecidableLE α] [DecidableLT α] {strategy : Strategy α}
  {start : Time} {turns : List (Turn (Clocked Scheduler) Call Answer)} {s s₀ : Clocked Scheduler}

theorem Recent.call {c : Call} {s : Clocked Scheduler} {e : Effect (Clocked Scheduler) Answer}
    (h : s.state.Recent) (owned : s.state.Owned s.now) (hc : c.perform strategy s = .ok e) :
    e.state.state.Recent := by
  have step := owned.call hc
  cases c with
  | enqueue task =>
    cases hc
    exact h.enqueue owned task
  | schedule gate slots =>
    refine ⟨?_, h.older_of_onward owned step⟩
    rw [Call.perform] at hc
    split at hc
    next =>
      cases hc
      exact h.lists
    next hs =>
      cases hc
      obtain ⟨_, hchoose, _⟩ := Option.bind_eq_some_iff.mp hs
      obtain ⟨_, hs', _⟩ := schedule_of_choose owned.timely.filed hchoose s.now
      obtain ⟨_, rfl⟩ := Prod.mk.inj (Option.some.inj (hs.symm.trans hs'))
      exact (h.lists.erase _).congr fun t => (booked_erase ..).symm
  | cancel task =>
    cases hc
    exact ⟨(h.lists.erase task).congr fun t => (booked_erase ..).symm, h.older_of_onward owned step⟩
  | withdraw provider =>
    cases hc
    exact ⟨(lists_withdraw h.lists provider).congr fun t => (booked_withdraw ..).symm,
      h.older_of_onward owned step⟩
  | move entry tier =>
    obtain ⟨_, _, rfl⟩ := except_map_eq_ok_iff.mp hc
    exact ⟨h.lists, h.older_of_onward owned step⟩
  | advance span =>
    cases hc
    exact h

/-- No task was let in while it had an entry in the queue. -/
def LetInAnew (turns : List (Turn (Clocked Scheduler) Call Answer)) : Prop :=
  ∀ turn ∈ turns, ∀ task ∈ turn.call.enqueued, ¬turn.before.state.queue.Holds task

instance : DecidablePred LetInAnew := fun turns => inferInstanceAs (Decidable (∀ turn ∈ turns,
  ∀ task ∈ turn.call.enqueued, ¬∃ e ∈ turn.before.state.queue.entries, e.task.id = task))

theorem exact_of_run (run : Run (Call.perform strategy) s₀ turns s) (h : s₀.state.Exact)
    (anew : LetInAnew turns) : s.state.Exact := by
  induction run with
  | start => exact h
  | @next turns s c e _ hc ih =>
    have exact := ih fun turn ht => anew turn (List.mem_append_left _ ht)
    have fresh := anew ⟨s, c, e⟩ (List.mem_append_right _ List.mem_cons_self)
    exact (step_perform exact fresh hc).exact

theorem timely_of_run (run : Run (Call.perform strategy) s₀ turns s)
    (h : s₀.state.queue.Timely s₀.now) : s.state.queue.Timely s.now := by
  refine run.keeps (I := fun s => s.state.queue.Timely s.now) (fun c s e h hc => ?_) h
  obtain ⟨⟨span, hspan⟩, ho⟩ := Call.outcome hc
  rw [hspan]
  exact (h.outcome ho).later span

theorem recent_of_run (run : Run (Call.perform strategy) ⟨start, empty⟩ turns s) : s.state.Recent := by
  suffices held : s.state.Owned s.now ∧ s.state.Recent from held.2
  induction run with
  | start => exact ⟨owned_empty start, recent_empty⟩
  | @next turns s c e run hc ih =>
    obtain ⟨owned, recent⟩ := ih
    have timely := timely_of_run (run.next hc) (Queue.timely_empty start)
    exact ⟨owned.onward timely (owned.call hc), recent.call owned hc⟩

theorem rid_of_run {provider : String} (run : Run (Call.perform strategy) s₀ turns s)
    (timely : s₀.state.queue.Timely s₀.now) (h : s₀.state.queue.Rid provider)
    (none_enqueued : ∀ turn ∈ turns, turn.call.enqueued = []) : s.state.queue.Rid provider := by
  induction run with
  | start => exact h
  | @next turns s c e run hc ih =>
    have rid := ih fun turn ht => none_enqueued turn (List.mem_append_left _ ht)
    have quiet : c.enqueued = [] :=
      none_enqueued ⟨s, c, e⟩ (List.mem_append_right _ List.mem_cons_self)
    obtain ⟨_, ho⟩ := Call.outcome hc
    rw [quiet] at ho
    exact rid.outcome (timely_of_run run timely) ho

/-- After any run, withdrawing a provider takes out its entries and its keys and leaves the lanes of all
others as they are. It reports tasks that had an entry there, each once, in the order in which the last of
their entries came; if no task was let in while it was queued, these are just the tasks that had an entry and
have none left. (The books have one line for a task, that of the last time it was let in.) After that, and
until a task is queued, withdrawing the provider again reports nothing and changes nothing. -/
theorem withdrawal_reports_orphans (run : Run (Call.perform strategy) ⟨start, empty⟩ turns s)
    (provider : String) :
    let s' := (s.state.withdraw provider).1
    let orphans := (s.state.withdraw provider).2
    (Call.withdraw provider).perform strategy s = .ok (.answerOnly ⟨s.now, s'⟩ (.orphaned orphans)) ∧
    s'.queue.entries = s.state.queue.entries.filter (fun e => e.key.provider ≠ provider) ∧
    s'.queue.keys = s.state.queue.keys.filter (fun key => key.provider ≠ provider) ∧
    (∀ key tier, s'.queue.lane key tier =
      if key.provider = provider then [] else s.state.queue.lane key tier) ∧
    (LetInAnew turns → ∀ task, task ∈ orphans ↔ (∃ e ∈ s.state.queue.entries, e.task = task) ∧
      ∀ e ∈ s'.queue.entries, e.task.id ≠ task.id) ∧
    (orphans.map Task.id).Nodup ∧
    (∀ task ∈ orphans, ∃ e, s.state.queue.LatestAt provider task e) ∧
    (orphans.Pairwise fun a b => ∀ x y, s.state.queue.LatestAt provider a x →
      s.state.queue.LatestAt provider b y → x.before y) ∧
    ∀ later s₂, Run (Call.perform strategy) ⟨s.now, s'⟩ later s₂ →
      (∀ turn ∈ later, turn.call.enqueued = []) → s₂.state.withdraw provider = (s₂.state, []) := by
  intro s' orphans
  have timely := timely_of_run run (Queue.timely_empty _)
  have recent := recent_of_run run
  obtain ⟨ends, hends, sorted, latest⟩ := recent.exists_latest timely provider
  have horphans : orphans = ends.map Entry.task := hends
  refine ⟨rfl, rfl, rfl, Queue.lane_removeProvider _ _, fun anew => ?_,
    nodup_orphans recent.lists provider, fun task ht => ?_, ?_, ?_⟩
  · obtain ⟨_, _, _, _, mem⟩ := withdraw_spec (exact_of_run run exact_empty anew) provider
    exact mem
  · obtain ⟨e, he, rfl⟩ := List.mem_map.mp (horphans ▸ ht)
    exact ⟨e, latest e he⟩
  · rw [horphans, List.pairwise_map]
    refine sorted.imp_of_mem fun {a b} ha hb hab x y hx hy => ?_
    rw [hx.unique (latest a ha), hy.unique (latest b hb)]
    exact hab
  · intro later s₂ run' none_enqueued
    have rid := Queue.rid_removeProvider s.state.queue provider
    have after : s'.queue.Timely s.now := timely.removeProvider provider
    exact withdraw_of_rid (rid_of_run run' after rid none_enqueued) (timely_of_run run' after).filed

/-- A task with two entries under one key of the provider is reported once it has lost its entry for another
one, and a task that also waits for a third provider is not. -/
theorem orphan_beside_survivor : ∃ turns s,
    Run (Call.perform (.firstCome : Strategy Double)) ⟨0, empty⟩ turns s ∧
    ((s.state.withdraw "p").2.map Task.id).Nodup ∧
    (∃ task ∈ (s.state.withdraw "p").2, task.id = 1) ∧ (∀ task ∈ (s.state.withdraw "p").2, task.id ≠ 2) ∧
    (s.state.withdraw "p").1.queue.lane ⟨"m", "r"⟩ .high = [5] ∧
    (s.state.withdraw "p").1.withdraw "p" = ((s.state.withdraw "p").1, []) := by
  let twice : Task := ⟨1, 1, "", [⟨"m", "p", 1, .normal⟩, ⟨"n", "q", 1, .normal⟩, ⟨"m", "p", 1, .normal⟩]⟩
  let both : Task := ⟨2, 2, "", [⟨"n", "p", 1, .normal⟩, ⟨"m", "r", 1, .normal⟩]⟩
  have played : ((play (Call.perform (.firstCome : Strategy Double))
      [.enqueue twice, .advance 7, .enqueue both, .withdraw "q", .move 5 .high] ⟨0, empty⟩).toOption.map
        fun r => decide (LetInAnew r.1 ∧ (∃ e ∈ r.2.state.queue.entries, e.task = twice) ∧
          (∀ e ∈ r.2.state.queue.entries, e.task.id = 1 → e.key.provider = "p") ∧
          (∃ e ∈ r.2.state.queue.entries, e.task.id = 2 ∧ e.key.provider ≠ "p") ∧
          r.2.state.queue.lane ⟨"m", "r"⟩ .high = [5])) = some true := by
    decide +kernel
  obtain ⟨turns, s, run, hview⟩ := Run.exists_of_play played
  obtain ⟨anew, waits, only, ⟨o, ho, hot, hop⟩, hlane⟩ := of_decide_eq_true hview
  obtain ⟨_, entries, _, lanes, reports, nodup, _, _, again⟩ := withdrawal_reports_orphans run "p"
  have mem := reports anew
  have left : ∀ e, e ∈ (s.state.withdraw "p").1.queue.entries ↔
      e ∈ s.state.queue.entries ∧ e.key.provider ≠ "p" := by
    intro e
    rw [entries, List.mem_filter, decide_eq_true_eq]
  refine ⟨turns, s, run, nodup, ⟨twice, (mem twice).mpr ⟨waits, fun e he ht => ?_⟩, rfl⟩, ?_, ?_, ?_⟩
  · exact ((left e).mp he).2 (only e ((left e).mp he).1 ht)
  · intro task ht hid
    exact ((mem task).mp ht).2 o ((left o).mpr ⟨ho, hop⟩) (hot.trans hid.symm)
  · rw [lanes, if_neg (by decide), hlane]
  · exact again [] ⟨s.now, _⟩ .start (by simp)

/-- A task is let in twice and cancelled, so that the entry of the first time stays behind. Withdrawing its
provider takes this last entry out, and yet the task is not reported. -/
theorem task_let_in_twice_is_not_reported : ∃ turns s,
    Run (Call.perform (.firstCome : Strategy Double)) ⟨0, empty⟩ turns s ∧
    (∃ e ∈ s.state.queue.entries, e.task.id = 1) ∧
    (∀ e ∈ (s.state.withdraw "p").1.queue.entries, e.task.id ≠ 1) ∧ (s.state.withdraw "p").2 = [] := by
  let task : Task := ⟨1, 1, "", [⟨"m", "p", 1, .normal⟩]⟩
  have played : ((play (Call.perform (.firstCome : Strategy Double))
      [.enqueue task, .enqueue task, .cancel 1] ⟨0, empty⟩).toOption.map fun r =>
        decide ((∃ e ∈ r.2.state.queue.entries, e.task.id = 1) ∧
          (∀ e ∈ (r.2.state.withdraw "p").1.queue.entries, e.task.id ≠ 1) ∧
          (r.2.state.withdraw "p").2 = [])) = some true := by
    decide +kernel
  obtain ⟨turns, s, run, hview⟩ := Run.exists_of_play played
  exact ⟨turns, s, run, of_decide_eq_true hview⟩

end Scheduler

end InferenceDispatch
