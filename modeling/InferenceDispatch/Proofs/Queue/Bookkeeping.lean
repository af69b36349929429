import InferenceDispatch.Proofs.Queue.Changes
import InferenceDispatch.Proofs.Queue.Refinement
import Mathlib.Algebra.Ring.Nat

namespace InferenceDispatch

namespace TierCounts

theorem total_add (a b : TierCounts) : (a.add b).total = a.total + b.total := by
  simp only [total, add]
  omega

end TierCounts

namespace Queue

variable {q q' : Queue} {now : Time}

theorem placeIn_lt_iff {e : Entry} {lane : List EntryId} :
    q.placeIn e lane < lane.length ↔ ∃ id ∈ lane, (q.find? id).any fun o => e.before o := by
  unfold placeIn
  cases hf : lane.findIdx? fun id => (q.find? id).any fun o => e.before o with
  | none =>
    have absent := List.findIdx?_eq_none_iff.mp hf
    simp only [Option.getD_none, Nat.lt_irrefl, false_iff, not_exists, not_and]
    exact fun id hid => by simp [absent id hid]
  | some i =>
    obtain ⟨hi, hbefore, _⟩ := List.findIdx?_eq_some_iff_getElem.mp hf
    simp only [Option.getD_some, hi, true_iff]
    exact ⟨lane[i], List.getElem_mem hi, hbefore⟩

theorem Filed.own_place_iff (h : q.Filed) {e : Entry} (he : e ∈ q.entries) {l : Lanes}
    (hl : q.lanes.get? e.key = some l) :
    q.placeIn e (l.lane e.tier) ≤ ((l.detach e.tier e.id).lane e.tier).length ↔
      ∃ o ∈ q.entries, o.key = e.key ∧ o.tier = e.tier ∧ e.before o := by
  have hlane : q.lane e.key e.tier = l.lane e.tier := by simp [lane, hl]
  have hm : e.id ∈ l.lane e.tier := hlane ▸ (h.mem_lane _ _ _).mpr ⟨e, he, rfl, rfl, rfl⟩
  -- the place is found in the whole lane, and the lane is one shorter once the entry has left it
  have shorter : ((l.detach e.tier e.id).lane e.tier).length = (l.lane e.tier).length - 1 := by
    rw [Lanes.detach, Lanes.lane_set, if_pos rfl, List.length_erase_of_mem hm]
  rw [shorter, Nat.le_sub_one_iff_lt (List.length_pos_of_mem hm), placeIn_lt_iff, ← hlane]
  constructor
  · rintro ⟨x, hx, hbefore⟩
    obtain ⟨o, ho, rfl, hk, ht⟩ := (h.mem_lane e.key e.tier x).mp hx
    rw [h.find?_eq_some_iff.mpr ⟨ho, rfl⟩] at hbefore
    exact ⟨o, ho, hk, ht, hbefore⟩
  · rintro ⟨o, ho, hk, ht, hbefore⟩
    refine ⟨o.id, (h.mem_lane e.key e.tier o.id).mpr ⟨o, ho, rfl, hk, ht⟩, ?_⟩
    rw [h.find?_eq_some_iff.mpr ⟨ho, rfl⟩]
    exact hbefore

theorem Filed.move_own_fails_iff (h : q.Filed) {e : Entry} (he : e ∈ q.entries) :
    q.move e.id e.tier now = .error .beyondEnd ↔
      ∀ o ∈ q.entries, o.key = e.key → o.tier = e.tier → ¬e.before o := by
  obtain ⟨l, hl, _⟩ := h.lanes_of_mem he
  have hf : q.find? e.id = some e := h.find?_eq_some_iff.mpr ⟨he, rfl⟩
  have fails : q.move e.id e.tier now = .error .beyondEnd ↔
      ¬q.placeIn e (l.lane e.tier) ≤ ((l.detach e.tier e.id).lane e.tier).length := by
    rw [move, hf]
    simp only [hl]
    split
    next hp => simp [hp]
    next hp => simp [hp]
  rw [fails, h.own_place_iff he hl]
  simp only [not_exists, not_and]

/-- A move fails exactly if it is to the tier the entry is in, and no entry there came after it. -/
theorem Filed.move_fails_iff (h : q.Filed) {id : EntryId} {tier : Priority} :
    q.move id tier now = .error .beyondEnd ↔ ∃ e ∈ q.entries, e.id = id ∧ e.tier = tier ∧
      ∀ o ∈ q.entries, o.key = e.key → o.tier = e.tier → ¬e.before o := by
  by_cases own : ∃ e ∈ q.entries, e.id = id ∧ e.tier = tier
  · obtain ⟨e, he, rfl, rfl⟩ := own
    rw [h.move_own_fails_iff he]
    constructor
    · exact fun last => ⟨e, he, rfl, rfl, last⟩
    · rintro ⟨x, hx, hid, _, last⟩
      exact h.eq_of_id_eq hx he hid ▸ last
  · obtain ⟨r, hr⟩ : ∃ r, q.move id tier now = .ok r :=
      move_returns h fun e he hid ht => own ⟨e, he, hid, ht⟩
    rw [hr]
    simp only [reduceCtorEq, false_iff]
    rintro ⟨e, he, hid, ht, _⟩
    exact own ⟨e, he, hid, ht⟩

theorem Filed.count_lane (h : q.Filed) {e : Entry} (he : e ∈ q.entries) (key : QueueKey)
    (tier : Priority) : (q.lane key tier).count e.id = if key = e.key ∧ tier = e.tier then 1 else 0 := by
  split
  next hk =>
    obtain ⟨rfl, rfl⟩ := hk
    exact List.count_eq_one_of_mem (h.nodup _ _) ((h.mem_lane _ _ _).mpr ⟨e, he, rfl, rfl, rfl⟩)
  next hk =>
    refine List.count_eq_zero.mpr fun hm => hk ?_
    obtain ⟨o, ho, hid, rfl, rfl⟩ := (h.mem_lane key tier e.id).mp hm
    obtain rfl := h.eq_of_id_eq ho he hid
    exact ⟨rfl, rfl⟩

theorem total_foldl_counts (l : List (QueueKey × Lanes)) (c : TierCounts) :
    (l.foldl (fun c x => c.add x.2.counts) c).total = c.total + (l.map fun x => x.2.counts.total).sum := by
  induction l generalizing c with
  | nil => rfl
  | cons x l ih =>
    rw [List.foldl_cons, ih, TierCounts.total_add, List.map_cons, List.sum_cons, Nat.add_assoc]

theorem Filed.sum_counts (h : q.Filed) :
    (q.keys.map fun key => (q.counts key).total).sum = q.depth := by
  have counted : ∀ x ∈ q.lanes.entries, x.2.counts = q.counts x.1 := by
    intro x hx
    have hg : q.lanes.get? x.1 = some x.2 := Table.get?_eq_some_iff.mpr hx
    simp [counts, hg]
  have all : (q.plain.tally fun e => decide (e.key ∈ q.keys)).total = q.depth := by
    rw [PlainQueue.total_tally]
    refine List.countP_eq_length.mpr fun e he => decide_eq_true ?_
    exact h.key_mem he
  calc (q.keys.map fun key => (q.counts key).total).sum
      = (q.lanes.keys.map fun key => (q.counts key).total).sum := (h.keys.map _).sum_nat
    _ = (q.lanes.entries.map fun x => x.2.counts.total).sum := by
        rw [Table.keys, List.map_map]
        congr 1
        exact List.map_congr_left fun x hx => by rw [Function.comp_apply, counted x hx]
    _ = (q.lanes.entries.foldl (fun c x => c.add x.2.counts) TierCounts.none).total := by
        rw [total_foldl_counts]
        simp [TierCounts.total, TierCounts.none]
    _ = (q.plain.tally fun e => decide (e.key ∈ q.keys)).total := by
        rw [h.foldl_counts q.lanes.nodup counted, TierCounts.none_add]
        simp only [h.keys.mem_iff, Table.keys]
    _ = q.depth := all

def Answer.numbers : Answer → List EntryId
  | number id => [id]
  | _ => []

def numbersGiven (turns : List (Turn (Clocked Queue) Call Answer)) : List EntryId :=
  turns.flatMap fun turn => turn.answer.numbers

/-- The key was used, and its provider was not removed since. -/
def InUse (turns : List (Turn (Clocked Queue) Call Answer)) (key : QueueKey) : Prop :=
  ∃ earlier turn later task tier, turns = earlier ++ turn :: later ∧
    turn.call = .enqueue task key tier ∧ ∀ t ∈ later, t.call ≠ .removeProvider key.provider

namespace Call

def keysAfter (keys : List QueueKey) : Call → List QueueKey
  | enqueue _ key _ => if key ∈ keys then keys else keys ++ [key]
  | removeProvider provider => keys.filter fun key => key.provider ≠ provider
  | _ => keys

theorem mem_keysAfter {c : Call} {keys : List QueueKey} {key : QueueKey} : key ∈ c.keysAfter keys ↔
    (∃ task tier, c = .enqueue task key tier) ∨ key ∈ keys ∧ c ≠ .removeProvider key.provider := by
  cases c with
  | enqueue task used tier =>
    simp only [keysAfter, enqueue.injEq]
    split
    next known =>
      constructor
      · exact fun hm => Or.inr ⟨hm, by simp⟩
      · rintro (⟨_, _, _, rfl, _⟩ | ⟨hm, _⟩)
        · exact known
        · exact hm
    next =>
      rw [List.mem_append, List.mem_singleton]
      constructor
      · rintro (hm | rfl)
        · exact Or.inr ⟨hm, by simp⟩
        · exact Or.inl ⟨task, tier, rfl, rfl, rfl⟩
      · rintro (⟨_, _, _, rfl, _⟩ | ⟨hm, _⟩)
        · exact Or.inr rfl
        · exact Or.inl hm
  | removeProvider provider => simp [keysAfter, eq_comm (a := provider)]
  | peek | peekEntry | dequeue | dequeueEntry | remove | move | entry | counts | modelCounts | modelDepth
  | keys | isEmpty | depth | waitingLongerThan | advance => simp [keysAfter]

variable {c : Call} {a : Answer}

theorem keys_run (h : q.Filed) (hc : c.run now q = .ok (q', a)) : q'.keys = c.keysAfter q.keys := by
  cases c with
  | enqueue task key tier =>
    cases hc
    exact keys_enqueue task key tier now h
  | removeProvider provider =>
    cases hc
    rfl
  | dequeue key only =>
    rw [run] at hc
    split at hc
    next ht =>
      cases hc
      obtain ⟨_, _, ht⟩ := Option.bind_eq_some_iff.mp ht
      exact (Without.take? h ht).keys
    next =>
      cases hc
      rfl
  | dequeueEntry id =>
    rw [run] at hc
    split at hc
    next ht =>
      cases hc
      exact (Without.take? h ht).keys
    next =>
      cases hc
      rfl
  | remove id =>
    cases hc
    exact (Without.remove h id).keys
  | move id tier =>
    obtain ⟨⟨q', there⟩, hm, ha⟩ := except_map_eq_ok_iff.mp hc
    cases ha
    rcases move_cases h hm with ⟨_, rfl, _⟩ | ⟨e, _, _, _, l, _, place, _, rfl⟩ <;> rfl
  | peek | peekEntry | entry | counts | modelCounts | modelDepth | keys | isEmpty | depth
  | waitingLongerThan | advance =>
    cases hc
    rfl

theorem numbers_run (hc : c.run now q = .ok (q', a)) :
    a.numbers = [q.issued + 1] ∧ q'.issued = q.issued + 1 ∨ a.numbers = [] ∧ c.enqueued = [] := by
  cases c with
  | enqueue task key tier =>
    cases hc
    exact Or.inl ⟨rfl, rfl⟩
  | dequeue key only =>
    rw [run] at hc
    split at hc <;> cases hc <;> exact Or.inr ⟨rfl, rfl⟩
  | dequeueEntry id =>
    rw [run] at hc
    split at hc <;> cases hc <;> exact Or.inr ⟨rfl, rfl⟩
  | move id tier =>
    obtain ⟨⟨q', there⟩, _, ha⟩ := except_map_eq_ok_iff.mp hc
    cases ha
    exact Or.inr ⟨rfl, rfl⟩
  | remove | removeProvider | peek | peekEntry | entry | counts | modelCounts | modelDepth | keys
  | isEmpty | depth | waitingLongerThan | advance =>
    cases hc
    exact Or.inr ⟨rfl, rfl⟩

end Call

theorem inUse_concat {turns : List (Turn (Clocked Queue) Call Answer)}
    {turn : Turn (Clocked Queue) Call Answer} {key : QueueKey} : InUse (turns ++ [turn]) key ↔
      (∃ task tier, turn.call = .enqueue task key tier) ∨
        InUse turns key ∧ turn.call ≠ .removeProvider key.provider := by
  constructor
  · rintro ⟨earlier, used, later, task, tier, hturns, hcall, kept⟩
    rcases List.eq_nil_or_concat later with rfl | ⟨later, last, rfl⟩
    · obtain ⟨_, hturn⟩ := List.append_inj' hturns rfl
      cases hturn
      exact Or.inl ⟨task, tier, hcall⟩
    · rw [List.concat_eq_append, ← List.cons_append, ← List.append_assoc] at hturns
      obtain ⟨rfl, hlast⟩ := List.append_inj' hturns rfl
      cases hlast
      exact Or.inr ⟨⟨earlier, used, later, task, tier, rfl, hcall,
        fun t ht => kept t (by simp [ht])⟩, kept turn (by simp)⟩
  · rintro (⟨task, tier, hcall⟩ | ⟨⟨earlier, used, later, task, tier, rfl, hcall, kept⟩, hturn⟩)
    · exact ⟨turns, turn, [], task, tier, rfl, hcall, by simp⟩
    · refine ⟨earlier, used, later ++ [turn], task, tier, by simp, hcall, fun t ht => ?_⟩
      rcases List.mem_append.mp ht with ht | ht
      · exact kept t ht
      · exact List.mem_singleton.mp ht ▸ hturn

section Runs

variable {start : Time} {turns : List (Turn (Clocked Queue) Call Answer)} {s : Clocked Queue}

theorem mem_keys_of_run (run : Run Call.perform ⟨start, empty⟩ turns s) (key : QueueKey) :
    key ∈ s.state.keys ↔ InUse turns key := by
  induction run with
  | start => simp [InUse, empty]
  | @next turns s c e run hc ih =>
    obtain ⟨⟨q, a⟩, hr, rfl⟩ := except_map_eq_ok_iff.mp hc
    have hkeys := Call.keys_run (timely_of_run run).filed hr
    rw [inUse_concat, ← ih, ← Call.mem_keysAfter, ← hkeys]
    rfl

/-- The numbers were given out in ascending order, and the entries bear some of them. -/
structure Numbered (given : List EntryId) (q : Queue) : Prop where
  ascending : given.Pairwise (· < ·)
  bounded : ∀ id ∈ given, id ≤ q.issued
  entries : ∀ e ∈ q.entries, e.id ∈ given

theorem Numbered.call {given : List EntryId} (h : Numbered given q) (timely : q.Timely now) {c : Call}
    {a : Answer} (hc : c.run now q = .ok (q', a)) : Numbered (given ++ a.numbers) q' := by
  have onward := timely.onward (Call.outcome hc)
  have below : ∀ id ∈ given, id ≤ q'.issued := fun id hid =>
    Nat.le_trans (h.bounded id hid) onward.issued
  rcases Call.numbers_run hc with ⟨hnumbers, hissued⟩ | ⟨hnumbers, hnone⟩
  · rw [hnumbers]
    refine ⟨?_, fun id hid => ?_, fun e' he' => ?_⟩
    · refine List.pairwise_append.mpr ⟨h.ascending, by simp, fun x hx y hy => ?_⟩
      obtain rfl := List.mem_singleton.mp hy
      exact Nat.lt_succ_of_le (h.bounded x hx)
    · rcases List.mem_append.mp hid with hid | hid
      · exact below id hid
      · exact Nat.le_of_eq ((List.mem_singleton.mp hid).trans hissued.symm)
    · rcases onward.entries e' he' with ⟨e, he, hid, _⟩ | ⟨hnew, _⟩
      · exact List.mem_append_left _ (hid ▸ h.entries e he)
      · have hle := (timely.outcome (Call.outcome hc)).filed.issued e' he'
        rw [hissued] at hle
        exact List.mem_append_right _ (List.mem_singleton.mpr (Nat.le_antisymm hle hnew))
  · rw [hnumbers, List.append_nil]
    refine ⟨h.ascending, below, fun e' he' => ?_⟩
    rcases onward.entries e' he' with ⟨e, he, hid, _⟩ | ⟨_, htask⟩
    · exact hid ▸ h.entries e he
    · exact absurd htask (hnone ▸ List.not_mem_nil)

theorem numbered_of_run (run : Run Call.perform ⟨start, empty⟩ turns s) :
    Numbered (numbersGiven turns) s.state := by
  induction run with
  | start => exact ⟨by simp [numbersGiven], by simp [numbersGiven], by simp [empty]⟩
  | @next turns s c e run hc ih =>
    obtain ⟨⟨q, a⟩, hr, rfl⟩ := except_map_eq_ok_iff.mp hc
    have all : numbersGiven (turns ++ [⟨s, c, .answerOnly ⟨s.now + c.span, q⟩ a⟩]) =
        numbersGiven turns ++ a.numbers := by
      simp [numbersGiven, Turn.answer, Effect.answerOnly]
    rw [all]
    exact ih.call (timely_of_run run) hr

/-- After any run, whatever was moved, every entry stands once in the lane of its key and tier and in no
other, and the lanes hold nothing else. The keys are distinct; they are those with lanes, and those in use.
Numbers are given out in ascending order, never twice, and the entries bear the numbers they were given.
Counted key by key, all entries are counted. The next call fails exactly if it moves an entry into its own
tier, and no entry of the key in that tier came after it. (No entry is moved 2 ^ 32 times or more, where the
count of moves would not fit.) -/
theorem lanes_index_entries (run : Run Call.perform ⟨start, empty⟩ turns s) :
    (∀ e ∈ s.state.entries, ∀ key tier, (s.state.lane key tier).count e.id =
      if key = e.key ∧ tier = e.tier then 1 else 0) ∧
    (∀ key tier, ∀ id ∈ s.state.lane key tier,
      ∃ e ∈ s.state.entries, e.id = id ∧ e.key = key ∧ e.tier = tier) ∧
    s.state.keys.Nodup ∧
    (∀ key, key ∈ s.state.keys ↔ ∃ l, s.state.lanes.get? key = some l) ∧
    (∀ key, key ∈ s.state.keys ↔ InUse turns key) ∧
    (numbersGiven turns).Pairwise (· < ·) ∧
    (∀ e ∈ s.state.entries, e.id ∈ numbersGiven turns) ∧
    (s.state.keys.map fun key => (s.state.counts key).total).sum = s.state.depth ∧
    ∀ c : Call, c.perform s = .error .beyondEnd ↔ ∃ e ∈ s.state.entries, c = .move e.id e.tier ∧
      ∀ o ∈ s.state.entries, o.key = e.key → o.tier = e.tier → ¬e.before o := by
  have filed := (timely_of_run run).filed
  obtain ⟨ascending, _, numbered⟩ := numbered_of_run run
  refine ⟨fun e he => filed.count_lane he, fun key tier id => (filed.mem_lane key tier id).mp,
    filed.nodup_keys, fun key => filed.mem_keys, mem_keys_of_run run, ascending, numbered,
    filed.sum_counts, fun c => ?_⟩
  cases c with
  | move id tier =>
    have fails : (Call.move id tier).perform s = .error .beyondEnd ↔
        s.state.move id tier s.now = .error .beyondEnd := by
      cases hm : s.state.move id tier s.now <;> simp [Call.perform, Call.run, hm, Except.map]
    rw [fails, filed.move_fails_iff]
    refine exists_congr fun e => and_congr_right fun _ => ?_
    rw [← and_assoc, Call.move.injEq, eq_comm (a := id), eq_comm (a := tier)]
  | enqueue | peek | peekEntry | remove | removeProvider | entry | counts | modelCounts | modelDepth
  | keys | isEmpty | depth | waitingLongerThan | advance =>
    simp [Call.perform, Call.run, Except.map]
  | dequeue key only => cases hd : s.state.dequeue? key only <;> simp [Call.perform, Call.run, hd, Except.map]
  | dequeueEntry id => cases hd : s.state.take? id <;> simp [Call.perform, Call.run, hd, Except.map]

/-- Once an older entry was moved within its tier, the newest one stands in front of it: the newest cannot
be moved within the tier, although it is not the last of its lane, and the others can. -/
theorem newest_stands_between : ∃ turns s, Run Call.perform ⟨0, empty⟩ turns s ∧
    s.state.lane ⟨"m", "p"⟩ .normal = [1, 3, 2] ∧
    (Call.move 3 .normal).perform s = .error .beyondEnd ∧
    (Call.move 2 .normal).perform s ≠ .error .beyondEnd ∧
    (s.state.keys.map fun key => (s.state.counts key).total).sum = 3 := by
  have played : ((play Call.perform
      [.enqueue ⟨1, 1, "", []⟩ ⟨"m", "p"⟩ .normal, .enqueue ⟨2, 2, "", []⟩ ⟨"m", "p"⟩ .normal,
        .enqueue ⟨3, 3, "", []⟩ ⟨"m", "p"⟩ .normal, .move 2 .normal] ⟨0, empty⟩).toOption.map fun r =>
      decide (r.2.state.lane ⟨"m", "p"⟩ .normal = [1, 3, 2] ∧ r.2.state.depth = 3 ∧
        (∃ e ∈ r.2.state.entries, (e.id = 3 ∧ e.tier = .normal) ∧
          ∀ o ∈ r.2.state.entries, o.key = e.key → o.tier = e.tier → ¬e.before o) ∧
        ∀ e ∈ r.2.state.entries, e.id = 2 →
          ∃ o ∈ r.2.state.entries, o.key = e.key ∧ o.tier = e.tier ∧ e.before o)) = some true := by
    decide +kernel
  obtain ⟨turns, s, run, hview⟩ := Run.exists_of_play played
  obtain ⟨lane, three, ⟨e, he, ⟨hid, ht⟩, last⟩, older⟩ := of_decide_eq_true hview
  obtain ⟨_, _, _, _, _, _, _, counted, fails⟩ := lanes_index_entries run
  refine ⟨turns, s, run, lane, (fails _).mpr ⟨e, he, by rw [hid, ht], last⟩, fun hm => ?_,
    counted.trans three⟩
  obtain ⟨o, ho, hcall, none_later⟩ := (fails _).mp hm
  obtain ⟨x, hx, hk, ht, hbefore⟩ := older o ho (Call.move.inj hcall).1.symm
  exact none_later x hx hk ht hbefore

end Runs

end Queue

end InferenceDispatch
