import InferenceDispatch.Proofs.Queue.Order
import InferenceDispatch.Proofs.Queue.PlainQueue

namespace InferenceDispatch

namespace TierCounts

theorem none_add (c : TierCounts) : none.add c = c := by simp [add, none]

theorem add_assoc (a b c : TierCounts) : (a.add b).add c = a.add (b.add c) := by
  simp [add, Nat.add_assoc]

end TierCounts

namespace Queue

/-- The queue without its lanes. -/
def plain (q : Queue) : PlainQueue := ⟨q.issued, q.keys, q.entries⟩

theorem plain_enqueue {q : Queue} (h : q.Filed) (task : Task) (key : QueueKey) (tier : Priority)
    (now : Time) : q.plain.enqueue task key tier now =
      ((q.enqueue task key tier now).1.plain, (q.enqueue task key tier now).2) := by
  refine Prod.ext ?_ rfl
  show _ = PlainQueue.mk (q.enqueue task key tier now).1.issued _ _
  rw [keys_enqueue task key tier now h]
  rfl

theorem plain_removeProvider {q : Queue} {now : Time} (h : q.Orderly now) (provider : String) :
    q.plain.removeProvider provider =
      ((q.removeProvider provider).1.plain, (q.removeProvider provider).2) := by
  simp only [PlainQueue.removeProvider, plain, removeProvider, h.sortByArrival_filter]

theorem plain_take? {q q' : Queue} {id : EntryId} {e : Entry}
    (ht : q.take? id = some (e, q')) : q'.plain = q.plain.drop id ∧ q.find? id = some e := by
  obtain ⟨e', hf, he⟩ := Option.map_eq_some_iff.mp ht
  obtain ⟨rfl, rfl⟩ := Prod.mk.inj he
  exact ⟨rfl, hf⟩

theorem plain_drop_of_take?_none {q : Queue} {id : EntryId} (ht : q.take? id = none) :
    q.plain.drop id = q.plain ∧ q.find? id = none := by
  have absent := take?_eq_none_iff.mp ht
  refine ⟨?_, Option.map_eq_none_iff.mp ht⟩
  have kept : q.entries.filter (fun e => decide (e.id ≠ id)) = q.entries :=
    List.filter_eq_self.mpr fun e he => decide_eq_true (absent e he)
  simp only [PlainQueue.drop, plain, kept]

namespace Filed

variable {q : Queue} (h : q.Filed)
include h

theorem counts_plain (key : QueueKey) : q.counts key = q.plain.tally fun e => e.key = key := by
  have lengths : q.counts key =
      ⟨(q.lane key .low).length, (q.lane key .normal).length, (q.lane key .high).length⟩ := by
    cases hl : q.lanes.get? key with
    | none => simp [counts, lane, hl, TierCounts.none]
    | some l => simp [counts, lane, hl, Lanes.counts, Lanes.lane]
  rw [lengths, h.length_lane, h.length_lane, h.length_lane]
  simp only [PlainQueue.tally, plain, decide_eq_true_eq]

theorem foldl_counts {l : List (QueueKey × Lanes)} (nodup : (l.map Prod.fst).Nodup)
    (hl : ∀ x ∈ l, x.2.counts = q.counts x.1) (c : TierCounts) :
    l.foldl (fun c x => c.add x.2.counts) c =
      c.add (q.plain.tally fun e => decide (e.key ∈ l.map Prod.fst)) := by
  induction l generalizing c with
  | nil => simp [PlainQueue.tally, TierCounts.add]
  | cons x l ih =>
    obtain ⟨hx, nodup⟩ := List.nodup_cons.mp nodup
    obtain ⟨hxc, hl⟩ := List.forall_mem_cons.mp hl
    have apart : ∀ e : Entry, decide (e.key = x.1) = true →
        decide (e.key ∈ l.map Prod.fst) = false := by
      intro e he
      rw [of_decide_eq_true he]
      exact decide_eq_false hx
    have split : (q.plain.tally fun e => decide (e.key ∈ (x :: l).map Prod.fst)) =
        (q.counts x.1).add (q.plain.tally fun e => decide (e.key ∈ l.map Prod.fst)) := by
      rw [h.counts_plain, ← q.plain.tally_or apart]
      simp only [List.map_cons, List.mem_cons, Bool.decide_or]
    rw [List.foldl_cons, ih nodup hl, hxc, split, TierCounts.add_assoc]

theorem modelCounts_plain (model : String) :
    q.modelCounts model = q.plain.tally fun e => e.key.model = model := by
  have nodup : ((q.lanes.entries.filter fun x => x.1.model = model).map Prod.fst).Nodup :=
    q.lanes.nodup.sublist (List.filter_sublist.map _)
  have counted : ∀ x ∈ q.lanes.entries.filter fun x => x.1.model = model,
      x.2.counts = q.counts x.1 := by
    intro x hx
    have hg : q.lanes.get? x.1 = some x.2 := Table.get?_eq_some_iff.mpr (List.mem_of_mem_filter hx)
    simp [counts, hg]
  -- the key of every entry has lanes
  have covered : ∀ e ∈ q.entries,
      (e.key ∈ (q.lanes.entries.filter fun x => x.1.model = model).map Prod.fst ↔
        e.key.model = model) := by
    intro e he
    obtain ⟨l, hl, _⟩ := h.lanes_of_mem he
    have hm := Table.get?_eq_some_iff.mp hl
    simp only [List.mem_map, List.mem_filter, decide_eq_true_eq]
    constructor
    · rintro ⟨x, ⟨_, hx⟩, hk⟩
      exact hk ▸ hx
    · intro hk
      exact ⟨_, ⟨hm, hk⟩, rfl⟩
  have same : ∀ tier, (q.entries.countP fun e => decide (decide (e.key ∈
        (q.lanes.entries.filter fun x => x.1.model = model).map Prod.fst) = true ∧ e.tier = tier)) =
      q.entries.countP fun e => decide (decide (e.key.model = model) = true ∧ e.tier = tier) :=
    fun tier => List.countP_congr fun e he => by
      simp only [decide_eq_true_eq, covered e he]
  rw [modelCounts, h.foldl_counts nodup counted, TierCounts.none_add]
  simp only [PlainQueue.tally, plain, same]

theorem modelDepth_plain (model : String) :
    q.modelDepth model = q.entries.countP fun e => e.key.model = model := by
  rw [modelDepth, h.modelCounts_plain, PlainQueue.total_tally]
  rfl

end Filed

namespace Orderly

variable {q : Queue} {now : Time} (h : q.Orderly now)
include h

theorem lane_plain (key : QueueKey) (tier : Priority) :
    q.lane key tier = (q.plain.inTier key tier).map Entry.id := h.lane_eq key tier

theorem front?_plain (key : QueueKey) (only : Option Priority) :
    q.front? key only = q.plain.front? key only := by
  have head : ((q.lanes.get? key).bind fun l => l.front? only) =
      (q.plain.front? key only).map Entry.id := by
    rw [head?_lane]
    cases only with
    | some tier => simp [h.lane_plain, PlainQueue.front?]
    | none => simp [h.lane_plain, PlainQueue.front?, List.map_findSome?, Function.comp_def]
  rw [front?_eq_bind, head]
  cases hf : q.plain.front? key only with
  | none => rfl
  | some e => exact h.filed.find?_eq_some_iff.mpr ⟨PlainQueue.front?_mem hf, rfl⟩

theorem dequeue?_plain (key : QueueKey) (only : Option Priority) :
    (q.plain.front? key only = none ∧ q.dequeue? key only = none) ∨
    ∃ e q', q.plain.front? key only = some e ∧ q.dequeue? key only = some (e, q') ∧
      q'.plain = q.plain.drop e.id ∧ q'.Orderly now := by
  rw [← h.front?_plain]
  cases hf : q.front? key only with
  | none => exact .inl ⟨rfl, by simp [dequeue?, hf]⟩
  | some e =>
    have he := h.filed.find?_eq_some_iff.mpr ⟨(h.filed.front?_mem hf).1, rfl⟩
    cases ht : q.take? e.id with
    | none => simp [(plain_drop_of_take?_none ht).2] at he
    | some r =>
      obtain ⟨e', q'⟩ := r
      obtain ⟨hq, he'⟩ := plain_take? ht
      obtain rfl : e = e' := Option.some.inj (he.symm.trans he')
      exact .inr ⟨e, q', rfl, by simp [dequeue?, hf, ht], hq, h.take? ht⟩

end Orderly

/-- The plain queue matches every call, and the call leaves the queue in order. -/
theorem run_refines {q : Queue} {now : Time} (h : q.Orderly now) {c : Call}
    (elsewhere : c.MovesElsewhere q.entries) :
    ∃ q' a, c.run now q = .ok (q', a) ∧ q'.Orderly (now + c.span) ∧
      c.runPlain now q.plain = (q'.plain, a) := by
  -- a call that only looks
  have look : ∀ {a a' : Answer} {c : Call}, c.run now q = .ok (q, a) →
      c.runPlain now q.plain = (q.plain, a') → a = a' →
      ∃ q' a, c.run now q = .ok (q', a) ∧ q'.Orderly (now + c.span) ∧
        c.runPlain now q.plain = (q'.plain, a) :=
    fun hr hp ha => ⟨q, _, hr, h.later _, ha ▸ hp⟩
  cases c with
  | enqueue task key tier =>
    refine ⟨_, _, rfl, h.enqueue task key tier, ?_⟩
    simp only [Call.runPlain, plain_enqueue h.filed]
    rfl
  | peek key => exact look rfl rfl (by rw [h.front?_plain])
  | peekEntry key => exact look rfl rfl (by rw [h.front?_plain])
  | dequeue key only =>
    rcases h.dequeue?_plain key only with ⟨hp, hd⟩ | ⟨e, q', hp, hd, hq, hq'⟩
    · exact ⟨q, .task none, by simp [Call.run, hd], h, by simp [Call.runPlain, hp]⟩
    · exact ⟨q', .task (some e.task), by simp [Call.run, hd], hq', by simp [Call.runPlain, hp, hq]⟩
  | dequeueEntry id =>
    cases ht : q.take? id with
    | none =>
      obtain ⟨hd, hf⟩ := plain_drop_of_take?_none ht
      refine ⟨q, .entry none, by simp [Call.run, ht], h, ?_⟩
      exact Prod.ext hd (congrArg Answer.entry hf)
    | some r =>
      obtain ⟨e, q'⟩ := r
      obtain ⟨hd, hf⟩ := plain_take? ht
      refine ⟨q', .entry (some e), by simp [Call.run, ht], h.take? ht, ?_⟩
      exact Prod.ext hd.symm (congrArg Answer.entry hf)
  | remove id =>
    cases ht : q.take? id with
    | none =>
      obtain ⟨hd, hf⟩ := plain_drop_of_take?_none ht
      refine ⟨q, .told false, by simp [Call.run, Queue.remove, ht], h, ?_⟩
      exact Prod.ext hd (congrArg (fun o : Option Entry => Answer.told o.isSome) hf)
    | some r =>
      obtain ⟨e, q'⟩ := r
      obtain ⟨hd, hf⟩ := plain_take? ht
      refine ⟨q', .told true, by simp [Call.run, Queue.remove, ht], h.take? ht, ?_⟩
      exact Prod.ext hd.symm (congrArg (fun o : Option Entry => Answer.told o.isSome) hf)
  | removeProvider provider =>
    refine ⟨_, _, rfl, h.removeProvider provider, ?_⟩
    simp only [Call.runPlain, plain_removeProvider h]
    rfl
  | move id tier =>
    obtain ⟨q', there, hm, hq, hkeys, hthere⟩ := h.move elsewhere
    obtain ⟨hentries, hissued, _⟩ := move_spec h.filed hm
    refine ⟨q', .told there, by simp [Call.run, hm, Except.map], hq, Prod.ext ?_ ?_⟩
    · simp only [Call.runPlain, PlainQueue.move, plain, hkeys, hentries, hissued]
      rfl
    · exact congrArg Answer.told hthere.symm
  | entry id => exact look rfl rfl rfl
  | counts key => exact look rfl rfl (by rw [h.filed.counts_plain])
  | modelCounts model => exact look rfl rfl (by rw [h.filed.modelCounts_plain])
  | modelDepth model => exact look rfl rfl (by rw [h.filed.modelDepth_plain]; rfl)
  | keys => exact look rfl rfl rfl
  | isEmpty => exact look rfl rfl rfl
  | depth => exact look rfl rfl rfl
  | waitingLongerThan bound =>
    exact look rfl rfl (by rw [waitingLongerThan, h.sortByArrival_filter]; rfl)
  | advance span => exact ⟨q, .advanced, rfl, h.later span, rfl⟩

/-- From a queue in order, all calls return and are answered as the plain queue answers them. -/
theorem play_refines {calls : List Call} {q : Queue} {now : Time} (h : q.Orderly now)
    (elsewhere : PlainQueue.MoveElsewhere now q.plain calls) :
    ∃ turns s, play Call.perform calls ⟨now, q⟩ = .ok (turns, s) ∧
      turns.map Turn.answer = PlainQueue.answers now q.plain calls := by
  induction calls generalizing q now with
  | nil => exact ⟨[], _, rfl, rfl⟩
  | cons c calls ih =>
    obtain ⟨hc, hcalls⟩ := elsewhere
    obtain ⟨q', a, hr, hq, hp⟩ := run_refines h hc
    rw [hp] at hcalls
    obtain ⟨turns, s, hplay, hanswers⟩ := ih hq hcalls
    refine ⟨⟨⟨now, q⟩, c, .answerOnly ⟨now + c.span, q'⟩ a⟩ :: turns, s, ?_, ?_⟩
    · simp only [play, Call.perform, hr, Except.map, Effect.answerOnly, hplay]
    · simp only [List.map_cons, hanswers, PlainQueue.answers, hp]
      rfl

end Queue

end InferenceDispatch
