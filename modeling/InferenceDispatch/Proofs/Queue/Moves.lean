import InferenceDispatch.Proofs.Queue.Changes
import Mathlib.Data.List.InsertIdx

namespace InferenceDispatch

/-- In front of the number stands a larger one: what follows does not matter. -/
theorem placeOf_append_of_larger {n : Nat} {a : List Nat} (b : List Nat) (h : ∃ m ∈ a, n < m) :
    placeOf n (a ++ b) = placeOf n a := by
  induction a with
  | nil => simp at h
  | cons x a ih =>
    rw [List.cons_append, placeOf_cons, placeOf_cons]
    by_cases hlt : n < x
    · rw [if_pos hlt, if_pos hlt]
    · have rest : ∃ m ∈ a, n < m := by simpa [hlt] using h
      rw [if_neg hlt, if_neg hlt, ih rest]

theorem placeOf_append_of_smaller {n : Nat} {a : List Nat} (b : List Nat) (h : ∀ m ∈ a, m ≤ n) :
    placeOf n (a ++ b) = a.length + placeOf n b := by
  induction a with
  | nil => simp
  | cons x a ih =>
    obtain ⟨hx, ha⟩ := List.forall_mem_cons.mp h
    rw [List.cons_append, placeOf_cons, if_neg (Nat.not_lt.mpr hx), ih ha, List.length_cons]
    omega

theorem placeOf_own {n : Nat} {a : List Nat} (b : List Nat) (h : ∀ m ∈ a, m ≤ n) :
    placeOf n (a ++ n :: b) = placeOf n (a ++ b) + 1 := by
  rw [placeOf_append_of_smaller _ h, placeOf_append_of_smaller _ h, placeOf_cons,
    if_neg (Nat.lt_irrefl n)]
  omega

theorem not_ascending_of_late {l : List Nat} {n : Nat} (h : placeOf n l < l.length) :
    ¬(l.insertIdx (placeOf n l + 1) n).Pairwise (· < ·) := by
  induction l with
  | nil => simp at h
  | cons x l ih =>
    rw [placeOf_cons] at h ⊢
    intro hp
    split at h
    next hlt =>
      rw [if_pos hlt, List.insertIdx_succ_cons, List.insertIdx_zero] at hp
      have := (List.pairwise_cons.mp hp).1 n List.mem_cons_self
      omega
    next hlt =>
      rw [if_neg hlt, List.insertIdx_succ_cons] at hp
      have bound : placeOf n l < l.length := by simpa using h
      exact ih bound (List.pairwise_cons.mp hp).2

theorem filter_insertIdx_ne {l : List Nat} {i : Nat} (n : Nat) (hi : i ≤ l.length) :
    (l.insertIdx i n).filter (· ≠ n) = l.filter (· ≠ n) := by
  have perm := (List.perm_insertIdx n l hi).filter (· ≠ n)
  rw [List.filter_cons_of_neg (by simp)] at perm
  exact (((List.sublist_insertIdx l i n).filter _).eq_of_length perm.length_eq.symm).symm

namespace Queue

/-- The entries in one lane of a key, the next one in front. -/
def listed (q : Queue) (key : QueueKey) (tier : Priority) : List Entry :=
  (q.lane key tier).filterMap q.find?

/-- What a move of an entry should come to: the entry is in the named tier and in no other, all others
are where they were, in the same order, and every lane of the key lists its entries by arrival. -/
structure MovedInOrder (q : Queue) (e : Entry) (tier : Priority) (now : Time) (q' : Queue) : Prop where
  entries : q'.entries = q.entries.map (moved e.id tier now)
  there : ∀ p, e.id ∈ q'.lane e.key p ↔ p = tier
  others : ∀ k p, (q'.lane k p).filter (· ≠ e.id) = (q.lane k p).filter (· ≠ e.id)
  ordered : ∀ p, (q'.listed e.key p).Pairwise fun a b => a.before b

def MovesInOrder (q : Queue) (e : Entry) (tier : Priority) (now : Time) : Prop :=
  ∃ q', q.move e.id tier now = .ok (q', true) ∧ MovedInOrder q e tier now q'

/-- In its lane the entry stands behind one that came after it. -/
def Overtaken (q : Queue) (e : Entry) : Prop :=
  ∃ earlier o later, q.listed e.key e.tier = earlier ++ e :: later ∧ o ∈ earlier ∧ e.before o

namespace Timely

variable {q : Queue} {now : Time} (h : q.Timely now)
include h

theorem mem_listed {key : QueueKey} {tier : Priority} {e : Entry} :
    e ∈ q.listed key tier ↔ e ∈ q.entries ∧ e.key = key ∧ e.tier = tier := by
  unfold listed
  rw [List.mem_filterMap]
  constructor
  · rintro ⟨id, hid, hf⟩
    obtain ⟨he, rfl⟩ := h.filed.find?_eq_some_iff.mp hf
    obtain ⟨o, ho, hid, hk⟩ := (h.filed.mem_lane key tier e.id).mp hid
    obtain rfl := h.filed.eq_of_id_eq ho he hid
    exact ⟨ho, hk⟩
  · rintro ⟨he, hk, ht⟩
    exact ⟨e.id, (h.filed.mem_lane key tier e.id).mpr ⟨e, he, rfl, hk, ht⟩,
      h.filed.find?_eq_some_iff.mpr ⟨he, rfl⟩⟩

theorem map_listed (key : QueueKey) (tier : Priority) :
    (q.listed key tier).map Entry.id = q.lane key tier := by
  have known : ∀ id ∈ q.lane key tier, (q.find? id).map Entry.id = some id := by
    intro id hid
    obtain ⟨e, he, rfl, _⟩ := (h.filed.mem_lane key tier id).mp hid
    rw [h.filed.find?_eq_some_iff.mpr ⟨he, rfl⟩, Option.map_some]
  unfold listed
  rw [List.map_filterMap]
  generalize q.lane key tier = ids at known
  induction ids with
  | nil => rfl
  | cons id ids ih =>
    obtain ⟨hid, hids⟩ := List.forall_mem_cons.mp known
    simp only [List.filterMap_cons, hid, ih hids]

theorem arrival_iff {l : List Entry} (hl : l ⊆ q.entries) :
    (l.Pairwise fun a b => a.before b) ↔ (l.map Entry.id).Pairwise (· < ·) := by
  rw [List.pairwise_map]
  constructor
  · exact fun hp => hp.imp_of_mem fun ha hb => (h.before_iff (hl ha) (hl hb)).mp
  · exact fun hp => hp.imp_of_mem fun ha hb => (h.before_iff (hl ha) (hl hb)).mpr

theorem listed_arrival_iff (key : QueueKey) (tier : Priority) :
    ((q.listed key tier).Pairwise fun a b => a.before b) ↔ (q.lane key tier).Pairwise (· < ·) := by
  rw [h.arrival_iff fun _ he => (h.mem_listed.mp he).1, h.map_listed]

theorem others_arrival_iff (key : QueueKey) (tier : Priority) (id : EntryId) :
    (((q.listed key tier).filter (·.id ≠ id)).Pairwise fun a b => a.before b) ↔
      ((q.lane key tier).filter (· ≠ id)).Pairwise (· < ·) := by
  rw [h.arrival_iff fun _ he => (h.mem_listed.mp (List.mem_of_mem_filter he)).1, ← h.map_listed,
    List.filter_map]
  rfl

theorem lane_cut {e : Entry} {earlier later : List Entry}
    (hl : q.listed e.key e.tier = earlier ++ e :: later) :
    q.lane e.key e.tier = earlier.map Entry.id ++ e.id :: later.map Entry.id ∧
      (q.lane e.key e.tier).filter (· ≠ e.id) = earlier.map Entry.id ++ later.map Entry.id := by
  have hlane : q.lane e.key e.tier = earlier.map Entry.id ++ e.id :: later.map Entry.id := by
    rw [← h.map_listed, hl, List.map_append, List.map_cons]
  refine ⟨hlane, ?_⟩
  have nodup := h.filed.nodup e.key e.tier
  rw [hlane, List.nodup_middle, List.nodup_cons, List.mem_append, not_or] at nodup
  obtain ⟨⟨ha, hb⟩, _⟩ := nodup
  have kept : ∀ {l : List EntryId}, e.id ∉ l → l.filter (· ≠ e.id) = l := fun hn =>
    List.filter_eq_self.mpr fun x hx => by simpa using ne_of_mem_of_not_mem hx hn
  rw [hlane, List.filter_append, List.filter_cons_of_neg (by simp), kept ha, kept hb]

/-- A move that fits into the lane keeps the order if the lanes were in order without the entry, and the
lane it enters puts the entry in its place. -/
theorem moves_in_order {e : Entry} (he : e ∈ q.entries) {tier : Priority} (time : Time)
    (rest : ∀ p, ((q.lane e.key p).filter (· ≠ e.id)).Pairwise (· < ·))
    (place : placeOf e.id (q.lane e.key tier) =
      placeOf e.id ((q.lane e.key tier).filter (· ≠ e.id))) : MovesInOrder q e tier time := by
  have own : ∀ k p, e.id ∉ (q.lane k p).filter (· ≠ e.id) := by simp
  have fits := placeOf_le e.id ((q.lane e.key tier).filter (· ≠ e.id))
  rw [← place] at fits
  obtain ⟨q', hm, _, hlane⟩ := h.move_in_place he tier time fits
  refine ⟨q', hm, (move_spec h.filed hm).1, fun p => ?_, fun k p => ?_, fun p => ?_⟩
  · rw [hlane]
    by_cases hp : p = tier
    · subst hp
      rw [if_pos ⟨rfl, rfl⟩, List.mem_insertIdx fits]
      simp
    · simp [hp]
  · rw [hlane]
    split
    next hk =>
      obtain ⟨rfl, rfl⟩ := hk
      rw [filter_insertIdx_ne _ fits, List.filter_filter]
      simp
    next => simp [List.filter_filter]
  · rw [(h.move hm).listed_arrival_iff, hlane]
    split
    next hk =>
      obtain ⟨_, rfl⟩ := hk
      rw [place]
      exact insertIdx_ascending (rest p) (own _ _)
    next => exact rest p

theorem own_tier_iff {e : Entry} (he : e ∈ q.entries) (time : Time)
    (rest : ∀ p, ((q.lane e.key p).filter (· ≠ e.id)).Pairwise (· < ·)) :
    MovesInOrder q e e.tier time ↔ Overtaken q e := by
  obtain ⟨earlier, later, hl⟩ := List.append_of_mem (h.mem_listed.mpr ⟨he, rfl, rfl⟩)
  obtain ⟨hlane, hrest⟩ := h.lane_cut hl
  have mem : ∀ o ∈ earlier, o ∈ q.entries := fun o ho =>
    (h.mem_listed.mp (hl ▸ List.mem_append_left _ ho)).1
  constructor
  · rintro ⟨q', hm, moved⟩
    by_contra hnot
    have smaller : ∀ n ∈ earlier.map Entry.id, n ≤ e.id := by
      intro n hn
      obtain ⟨o, ho, rfl⟩ := List.mem_map.mp hn
      by_contra hlt
      exact hnot ⟨earlier, o, later, hl, ho,
        (h.before_iff he (mem o ho)).mpr (Nat.lt_of_not_le hlt)⟩
    have late : placeOf e.id (q.lane e.key e.tier) =
        placeOf e.id ((q.lane e.key e.tier).filter (· ≠ e.id)) + 1 := by
      rw [hrest, hlane, placeOf_own _ smaller]
    by_cases fits : placeOf e.id ((q.lane e.key e.tier).filter (· ≠ e.id)) <
        ((q.lane e.key e.tier).filter (· ≠ e.id)).length
    · obtain ⟨q'', hm', _, hlane'⟩ := h.move_in_place he e.tier time (by omega)
      cases hm.symm.trans hm'
      have ordered := ((h.move hm).listed_arrival_iff e.key e.tier).mp (moved.ordered e.tier)
      rw [hlane', if_pos ⟨rfl, rfl⟩, late] at ordered
      exact not_ascending_of_late fits ordered
    · have hm' := h.move_beyond he e.tier time (by omega)
      cases hm.symm.trans hm'
  · rintro ⟨earlier', o, later', hl', ho, hbefore⟩
    obtain ⟨hlane', hrest'⟩ := h.lane_cut hl'
    have ho' : o ∈ q.entries := (h.mem_listed.mp (hl' ▸ List.mem_append_left _ ho)).1
    have larger : ∃ m ∈ earlier'.map Entry.id, e.id < m :=
      ⟨o.id, List.mem_map_of_mem ho, (h.before_iff he ho').mp hbefore⟩
    refine h.moves_in_order he time rest ?_
    rw [hrest', hlane', placeOf_append_of_larger _ larger, placeOf_append_of_larger _ larger]

/-- A move keeps the order exactly if the other entries of the key are in order, and the entry changes its
tier or stands behind one that came after it. -/
theorem moves_in_order_iff {e : Entry} (he : e ∈ q.entries) (tier : Priority) (time : Time) :
    MovesInOrder q e tier time ↔
      (∀ p, ((q.listed e.key p).filter (·.id ≠ e.id)).Pairwise fun a b => a.before b) ∧
        (e.tier = tier → Overtaken q e) := by
  have rest_of : MovesInOrder q e tier time →
      ∀ p, ((q.lane e.key p).filter (· ≠ e.id)).Pairwise (· < ·) := by
    rintro ⟨q', hm, moved⟩ p
    rw [← moved.others]
    exact (((h.move hm).listed_arrival_iff e.key p).mp (moved.ordered p)).filter _
  simp only [h.others_arrival_iff]
  by_cases ht : e.tier = tier
  · subst ht
    constructor
    · intro hm
      exact ⟨rest_of hm, fun _ => (h.own_tier_iff he time (rest_of hm)).mp hm⟩
    · rintro ⟨rest, behind⟩
      exact (h.own_tier_iff he time rest).mpr (behind rfl)
  · constructor
    · intro hm
      exact ⟨rest_of hm, fun hc => absurd hc ht⟩
    · rintro ⟨rest, _⟩
      exact h.moves_in_order he time rest (by rw [h.filter_lane_of_tier_ne he _ ht])

end Timely

namespace Orderly

variable {q : Queue} {now : Time} (h : q.Orderly now)
include h

theorem not_overtaken {e : Entry} (he : e ∈ q.entries) : ¬Overtaken q e := by
  rintro ⟨earlier, o, later, hl, ho, hbefore⟩
  have hp := (h.timely.listed_arrival_iff e.key e.tier).mpr (h.ascending _ _)
  rw [hl] at hp
  have ho' : o ∈ q.entries := (h.timely.mem_listed.mp (hl ▸ List.mem_append_left _ ho)).1
  have hlt := (h.timely.before_iff he ho').mp hbefore
  have hgt := (h.timely.before_iff ho' he).mp
    ((List.pairwise_append.mp hp).2.2 o ho e List.mem_cons_self)
  exact Nat.lt_asymm hlt hgt

theorem moves_in_order_iff {e : Entry} (he : e ∈ q.entries) (tier : Priority) (time : Time) :
    MovesInOrder q e tier time ↔ e.tier ≠ tier := by
  rw [h.timely.moves_in_order_iff he]
  constructor
  · rintro ⟨_, behind⟩ ht
    exact h.not_overtaken he (behind ht)
  · intro ht
    refine ⟨fun p => ?_, fun hc => absurd hc ht⟩
    rw [h.timely.others_arrival_iff]
    exact (h.ascending e.key p).filter _

end Orderly

/-- After any run, a move keeps the order of arrival exactly if the other entries of the key are in order,
and the entry changes its tier or stands behind one that came after it. As long as no entry was moved into
the tier it was in, that is exactly if the move is to another tier. -/
theorem move_keeps_order_iff {start : Time} {turns : List (Turn (Clocked Queue) Call Answer)}
    {s : Clocked Queue} (run : Run Call.perform ⟨start, empty⟩ turns s) {e : Entry}
    (he : e ∈ s.state.entries) (tier : Priority) :
    (MovesInOrder s.state e tier s.now ↔
      (∀ p, ((s.state.listed e.key p).filter (·.id ≠ e.id)).Pairwise fun a b => a.before b) ∧
        (e.tier = tier → Overtaken s.state e)) ∧
    ((∀ turn ∈ turns, turn.call.MovesElsewhere turn.before.state.entries) →
      (MovesInOrder s.state e tier s.now ↔ e.tier ≠ tier)) :=
  ⟨(timely_of_run run).moves_in_order_iff he tier s.now,
    fun elsewhere => (orderly_of_run run elsewhere).moves_in_order_iff he tier s.now⟩

/-- An entry that was moved up may move back into its tier, and may not move up again. -/
theorem moved_up_may_return : ∃ turns s, Run Call.perform ⟨5, empty⟩ turns s ∧
    (∀ turn ∈ turns, turn.call.MovesElsewhere turn.before.state.entries) ∧
    ∃ e ∈ s.state.entries, e.id = 1 ∧ MovesInOrder s.state e .normal s.now ∧
      ¬MovesInOrder s.state e .high s.now := by
  have played : ((play Call.perform
      [.enqueue ⟨1, 1, "", []⟩ ⟨"m", "p"⟩ .normal, .enqueue ⟨2, 2, "", []⟩ ⟨"m", "p"⟩ .normal,
        .move 1 .high, .advance 7] ⟨5, empty⟩).toOption.map fun r =>
          (decide (∀ turn ∈ r.1, turn.call.MovesElsewhere turn.before.state.entries),
            r.2.state.entries.find? fun e => e.id = 1 ∧ e.tier = .high)) =
      some (true, some ⟨1, ⟨1, 1, "", []⟩, ⟨"m", "p"⟩, .normal, .high, 5, 1, some 5⟩) := by
    decide +kernel
  obtain ⟨turns, s, run, hview⟩ := Run.exists_of_play played
  obtain ⟨helsewhere, hfind⟩ := Prod.mk.inj hview
  have elsewhere := of_decide_eq_true helsewhere
  have he := List.mem_of_find?_eq_some hfind
  refine ⟨turns, s, run, elsewhere, _, he, rfl, ?_, ?_⟩
  · exact ((move_keeps_order_iff run he .normal).2 elsewhere).mpr (by decide)
  · exact fun hm => ((move_keeps_order_iff run he .high).2 elsewhere).mp hm rfl

/-- Of two entries in a tier, the first that is moved into this tier comes to stand behind the second, and
the second cannot be moved into it at all. -/
theorem own_tier_out_of_order : ∃ turns s, Run Call.perform ⟨0, empty⟩ turns s ∧
    (s.state.move 1 .normal s.now).toOption.map (fun r => (r.1.lane ⟨"m", "p"⟩ .normal, r.2)) =
      some ([2, 1], true) ∧
    s.state.move 2 .normal s.now = .error .beyondEnd ∧
    s.state.depth = 2 ∧ ∀ e ∈ s.state.entries, ¬MovesInOrder s.state e .normal s.now := by
  have played : ((play Call.perform
      [.enqueue ⟨1, 1, "", []⟩ ⟨"m", "p"⟩ .normal, .enqueue ⟨2, 2, "", []⟩ ⟨"m", "p"⟩ .normal]
      ⟨0, empty⟩).toOption.map fun r => decide
        ((r.2.state.move 1 .normal r.2.now).toOption.map
            (fun r => (r.1.lane ⟨"m", "p"⟩ .normal, r.2)) = some ([2, 1], true) ∧
          r.2.state.move 2 .normal r.2.now = .error .beyondEnd ∧ r.2.state.depth = 2 ∧
          (∀ turn ∈ r.1, turn.call.MovesElsewhere turn.before.state.entries) ∧
          ∀ e ∈ r.2.state.entries, e.tier = .normal)) = some true := by
    decide +kernel
  obtain ⟨turns, s, run, hview⟩ := Run.exists_of_play played
  obtain ⟨first, second, two, elsewhere, normal⟩ := of_decide_eq_true hview
  refine ⟨turns, s, run, first, second, two, fun e he hm => ?_⟩
  exact ((orderly_of_run run elsewhere).moves_in_order_iff he .normal s.now).mp hm (normal e he)

end Queue

end InferenceDispatch
