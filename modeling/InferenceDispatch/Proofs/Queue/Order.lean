import InferenceDispatch.Proofs.Queue.Filing
import Mathlib.Data.List.Sort

namespace InferenceDispatch

/-- The place of a number in a list: in front of the first larger one, or at the end. -/
def placeOf (n : Nat) (l : List Nat) : Nat := (l.findIdx? fun m => decide (n < m)).getD l.length

@[simp] theorem placeOf_nil (n : Nat) : placeOf n [] = 0 := rfl

theorem placeOf_cons (n x : Nat) (l : List Nat) :
    placeOf n (x :: l) = if n < x then 0 else placeOf n l + 1 := by
  unfold placeOf
  rw [List.findIdx?_cons]
  by_cases hlt : n < x
  · simp [hlt]
  · cases l.findIdx? fun m => decide (n < m) <;> simp [hlt]

theorem placeOf_le (n : Nat) (l : List Nat) : placeOf n l ≤ l.length := by
  induction l with
  | nil => exact Nat.le_refl _
  | cons x l ih =>
    rw [placeOf_cons, List.length_cons]
    split <;> omega

theorem insertIdx_ascending {l : List Nat} {n : Nat} (hl : l.Pairwise (· < ·)) (hn : n ∉ l) :
    (l.insertIdx (placeOf n l) n).Pairwise (· < ·) := by
  induction l with
  | nil => simp
  | cons x l ih =>
    obtain ⟨hx, hl⟩ := List.pairwise_cons.mp hl
    obtain ⟨hne, hn⟩ := not_or.mp (mt List.mem_cons.mpr hn)
    rw [placeOf_cons]
    split
    next hlt =>
      refine List.pairwise_cons.mpr ⟨fun y hy => ?_, List.pairwise_cons.mpr ⟨hx, hl⟩⟩
      rcases List.mem_cons.mp hy with rfl | hy
      · exact hlt
      · exact Nat.lt_trans hlt (hx y hy)
    next hlt =>
      rw [List.insertIdx_succ_cons]
      refine List.pairwise_cons.mpr ⟨fun y hy => ?_, ih hl hn⟩
      rcases (List.mem_insertIdx (placeOf_le n l)).mp hy with rfl | hy
      · omega
      · exact hx y hy

namespace Queue

/-- The queue as it is found at a time: it is filed, entries with higher numbers came later, and none
is still to come. -/
structure Timely (q : Queue) (now : Time) : Prop where
  filed : q.Filed
  chronological : ∀ a ∈ q.entries, ∀ b ∈ q.entries, a.id < b.id → a.enqueuedAt ≤ b.enqueuedAt
  past : ∀ e ∈ q.entries, e.enqueuedAt ≤ now

theorem timely_empty (now : Time) : empty.Timely now :=
  ⟨filed_empty, by simp [empty], by simp [empty]⟩

namespace Timely

variable {q : Queue} {now : Time} (h : q.Timely now)
include h

theorem later (span : Time) : q.Timely (now + span) :=
  ⟨h.filed, h.chronological, fun e he => Nat.le_add_right_of_le (h.past e he)⟩

theorem of_fewer {q' : Queue} (filed : q'.Filed) (hentries : q'.entries ⊆ q.entries) :
    q'.Timely now where
  filed := filed
  chronological := fun a ha b hb => h.chronological a (hentries ha) b (hentries hb)
  past := fun e he => h.past e (hentries he)

theorem before_iff {a b : Entry} (ha : a ∈ q.entries) (hb : b ∈ q.entries) :
    a.before b = true ↔ a.id < b.id := by
  simp only [Entry.before, Bool.or_eq_true, Bool.and_eq_true, decide_eq_true_eq]
  rcases Nat.lt_trichotomy a.id b.id with hlt | heq | hgt
  · simp only [hlt, and_true, iff_true]
    exact Nat.lt_or_eq_of_le (h.chronological a ha b hb hlt)
  · obtain rfl := h.filed.eq_of_id_eq ha hb heq
    simp
  · have hle := h.chronological b hb a ha hgt
    simp [Nat.not_lt.mpr hle, Nat.lt_asymm hgt]

theorem enqueue (task : Task) (key : QueueKey) (tier : Priority) :
    (q.enqueue task key tier now).1.Timely now := by
  have below : ∀ e ∈ q.entries, e.id < q.issued + 1 := fun e he =>
    Nat.lt_succ_of_le (h.filed.issued e he)
  refine ⟨filed_enqueue task key tier now h.filed, ?_, ?_⟩
  · intro a ha b hb hlt
    rw [entries_enqueue] at ha hb
    rcases List.mem_append.mp ha with ha | ha <;> rcases List.mem_append.mp hb with hb | hb
    · exact h.chronological a ha b hb hlt
    · obtain rfl := List.mem_singleton.mp hb
      exact h.past a ha
    · obtain rfl := List.mem_singleton.mp ha
      exact absurd (below b hb) (Nat.lt_asymm hlt)
    · obtain rfl := List.mem_singleton.mp ha
      obtain rfl := List.mem_singleton.mp hb
      exact Nat.le_refl _
  · intro e he
    rw [entries_enqueue] at he
    rcases List.mem_append.mp he with he | he
    · exact h.past e he
    · obtain rfl := List.mem_singleton.mp he
      exact Nat.le_refl _

theorem take? {id : EntryId} {e : Entry} {q' : Queue} (ht : q.take? id = some (e, q')) :
    q'.Timely now := by
  obtain ⟨_, _, hentries, _, filed⟩ := take?_eq_some h.filed ht
  refine h.of_fewer filed ?_
  rw [hentries]
  exact List.filter_subset_self _

theorem removeProvider (provider : String) : (q.removeProvider provider).1.Timely now := by
  refine h.of_fewer (filed_removeProvider provider h.filed) ?_
  rw [entries_removeProvider]
  exact List.filter_subset_self _

theorem move {id : EntryId} {tier : Priority} {time : Time} {q' : Queue}
    {there : Bool} (hm : q.move id tier time = .ok (q', there)) : q'.Timely now := by
  obtain ⟨hentries, _, filed, _⟩ := move_spec h.filed hm
  refine ⟨filed, ?_, ?_⟩
  · intro a ha b hb hlt
    rw [hentries] at ha hb
    obtain ⟨x, hx, rfl⟩ := List.mem_map.mp ha
    obtain ⟨y, hy, rfl⟩ := List.mem_map.mp hb
    simp only [moved_id, moved_enqueuedAt] at hlt ⊢
    exact h.chronological x hx y hy hlt
  · intro o ho
    rw [hentries] at ho
    obtain ⟨x, hx, rfl⟩ := List.mem_map.mp ho
    rw [moved_enqueuedAt]
    exact h.past x hx

theorem placeIn_eq {e : Entry} (he : e ∈ q.entries) (key : QueueKey) (tier : Priority) :
    q.placeIn e (q.lane key tier) = placeOf e.id (q.lane key tier) := by
  have same : ∀ n ∈ q.lane key tier, ((q.find? n).any fun o => e.before o) = decide (e.id < n) := by
    intro n hn
    obtain ⟨o, ho, rfl, _⟩ := (h.filed.mem_lane key tier n).mp hn
    have hf : q.find? o.id = some o := h.filed.find?_eq_some_iff.mpr ⟨ho, rfl⟩
    rw [hf, Option.any_some, Bool.eq_iff_iff, h.before_iff he ho, decide_eq_true_eq]
  unfold placeIn placeOf
  congr 1
  generalize q.lane key tier = ids at same
  induction ids with
  | nil => rfl
  | cons n ids ih =>
    obtain ⟨hn, hids⟩ := List.forall_mem_cons.mp same
    rw [List.findIdx?_cons, List.findIdx?_cons, hn, ih hids]

theorem move_in_place {e : Entry} (he : e ∈ q.entries) (tier : Priority) (time : Time)
    (fits : placeOf e.id (q.lane e.key tier) ≤ ((q.lane e.key tier).filter (· ≠ e.id)).length) :
    ∃ q', q.move e.id tier time = .ok (q', true) ∧ q'.keys = q.keys ∧ ∀ k p, q'.lane k p =
      if k = e.key ∧ p = tier then
        ((q.lane k p).filter (· ≠ e.id)).insertIdx (placeOf e.id (q.lane k p)) e.id
      else (q.lane k p).filter (· ≠ e.id) := by
  obtain ⟨l, hl, _⟩ := h.filed.lanes_of_mem he
  have hf : q.find? e.id = some e := h.filed.find?_eq_some_iff.mpr ⟨he, rfl⟩
  have hlane : l.lane tier = q.lane e.key tier := by simp [lane, hl]
  have hp : q.placeIn e (l.lane tier) ≤ ((l.detach e.tier e.id).lane tier).length := by
    rwa [hlane, h.placeIn_eq he, h.filed.lane_detach he hl]
  have hm : q.move e.id tier time = .ok ({ q with
      lanes := q.lanes.modify e.key fun _ => (l.detach e.tier e.id).set tier
        (((l.detach e.tier e.id).lane tier).insertIdx (q.placeIn e (l.lane tier)) e.id)
      entries := q.entries.map (moved e.id tier time) }, true) := by
    rw [Queue.move, hf]
    simp only [hl, if_pos hp]
    rfl
  refine ⟨_, hm, rfl, fun k p => ?_⟩
  rw [lane_modify hl, Lanes.lane_set]
  by_cases hk : k = e.key
  · subst hk
    by_cases ht : p = tier
    · subst ht
      simp only [↓reduceIte, and_self, h.filed.lane_detach he hl, hlane, h.placeIn_eq he]
    · simp only [↓reduceIte, ht, and_false, h.filed.lane_detach he hl]
  · simp only [hk, ↓reduceIte, false_and]
    rw [h.filed.filter_lane_of_ne he fun hc => hk hc.1]

theorem move_beyond {e : Entry} (he : e ∈ q.entries) (tier : Priority) (time : Time)
    (late : ((q.lane e.key tier).filter (· ≠ e.id)).length < placeOf e.id (q.lane e.key tier)) :
    q.move e.id tier time = .error .beyondEnd := by
  obtain ⟨l, hl, _⟩ := h.filed.lanes_of_mem he
  have hf : q.find? e.id = some e := h.filed.find?_eq_some_iff.mpr ⟨he, rfl⟩
  have hlane : l.lane tier = q.lane e.key tier := by simp [lane, hl]
  have hp : ¬ q.placeIn e (l.lane tier) ≤ ((l.detach e.tier e.id).lane tier).length := by
    rw [hlane, h.placeIn_eq he, h.filed.lane_detach he hl]
    omega
  rw [Queue.move, hf]
  simp only [hl, if_neg hp]

theorem not_mem_lane {e : Entry} (he : e ∈ q.entries) {key : QueueKey} {tier : Priority}
    (hne : e.tier ≠ tier) : e.id ∉ q.lane key tier := by
  intro hm
  obtain ⟨o, ho, hid, _, ht⟩ := (h.filed.mem_lane key tier e.id).mp hm
  rw [h.filed.eq_of_id_eq ho he hid] at ht
  exact hne ht

theorem filter_lane_of_tier_ne {e : Entry} (he : e ∈ q.entries) (key : QueueKey) {tier : Priority}
    (hne : e.tier ≠ tier) : (q.lane key tier).filter (· ≠ e.id) = q.lane key tier :=
  h.filed.filter_lane_of_ne he fun hc => hne hc.2.symm

end Timely

/-- The queue as it is found at a time, with its lanes in the order of arrival. -/
structure Orderly (q : Queue) (now : Time) : Prop where
  filed : q.Filed
  ascending : ∀ key tier, (q.lane key tier).Pairwise (· < ·)
  chronological : ∀ a ∈ q.entries, ∀ b ∈ q.entries, a.id < b.id → a.enqueuedAt ≤ b.enqueuedAt
  past : ∀ e ∈ q.entries, e.enqueuedAt ≤ now

theorem Timely.orderly {q : Queue} {now : Time} (h : q.Timely now)
    (ascending : ∀ key tier, (q.lane key tier).Pairwise (· < ·)) : q.Orderly now :=
  ⟨h.filed, ascending, h.chronological, h.past⟩

theorem orderly_empty (now : Time) : empty.Orderly now :=
  (timely_empty now).orderly (by simp [lane, empty])

namespace Orderly

variable {q : Queue} {now : Time} (h : q.Orderly now)
include h

theorem timely : q.Timely now := ⟨h.filed, h.chronological, h.past⟩

theorem later (span : Time) : q.Orderly (now + span) := (h.timely.later span).orderly h.ascending

/-- The entries stand in the order of their arrival, so that sorting a part of them changes nothing. -/
theorem sortByArrival_filter (p : Entry → Bool) :
    Entry.sortByArrival (q.entries.filter p) = q.entries.filter p := by
  refine List.mergeSort_of_pairwise (List.Pairwise.sublist List.filter_sublist ?_)
  refine h.filed.ascending.imp_of_mem fun {a b} ha hb hlt => ?_
  have hnot : ¬ b.before a = true := mt (h.timely.before_iff hb ha).mp (Nat.lt_asymm hlt)
  simpa using hnot

theorem lane_eq (key : QueueKey) (tier : Priority) : q.lane key tier =
    (q.entries.filter fun e => e.key = key ∧ e.tier = tier).map Entry.id := by
  refine List.Pairwise.eq_of_mem_iff (h.ascending key tier) ?_ fun id => ?_
  · exact List.pairwise_map.mpr (h.filed.ascending.filter _)
  · rw [h.filed.mem_lane]
    simp only [List.mem_map, List.mem_filter, decide_eq_true_eq]
    constructor
    · rintro ⟨e, he, hid, hk⟩
      exact ⟨e, ⟨he, hk⟩, hid⟩
    · rintro ⟨e, ⟨he, hk⟩, hid⟩
      exact ⟨e, he, hid, hk⟩

theorem before_of_leads {e o : Entry} (he : q.Leads e) (ho : o ∈ q.entries) (hkey : o.key = e.key)
    (htier : o.tier = e.tier) (hne : o ≠ e) : e.before o := by
  have hm := (h.filed.mem_lane e.key e.tier o.id).mpr ⟨o, ho, rfl, hkey, htier⟩
  obtain ⟨ids, hids⟩ := List.head?_eq_some_iff.mp he.first
  have hasc := h.ascending e.key e.tier
  rw [hids] at hm hasc
  refine (h.timely.before_iff he.waiting ho).mpr ((List.pairwise_cons.mp hasc).1 o.id ?_)
  exact (List.mem_cons.mp hm).resolve_left fun hid => hne (h.filed.eq_of_id_eq ho he.waiting hid)

theorem enqueue (task : Task) (key : QueueKey) (tier : Priority) :
    (q.enqueue task key tier now).1.Orderly now := by
  refine (h.timely.enqueue task key tier).orderly fun k p => ?_
  rw [lane_enqueue]
  split
  · refine List.pairwise_append.mpr ⟨h.ascending k p, by simp, fun a ha b hb => ?_⟩
    obtain ⟨e, he, rfl, _⟩ := (h.filed.mem_lane k p a).mp ha
    obtain rfl := List.mem_singleton.mp hb
    exact Nat.lt_succ_of_le (h.filed.issued e he)
  · exact h.ascending k p

theorem take? {id : EntryId} {e : Entry} {q' : Queue} (ht : q.take? id = some (e, q')) :
    q'.Orderly now := by
  refine (h.timely.take? ht).orderly fun k p => ?_
  rw [lane_take? h.filed ht]
  exact (h.ascending k p).filter _

theorem removeProvider (provider : String) : (q.removeProvider provider).1.Orderly now := by
  refine (h.timely.removeProvider provider).orderly fun k p => ?_
  rw [lane_removeProvider]
  split
  · exact List.Pairwise.nil
  · exact h.ascending k p

/-- A move to another tier keeps the order: the entry takes the place of its arrival. -/
theorem move {id : EntryId} {tier : Priority}
    (elsewhere : ∀ e ∈ q.entries, e.id = id → e.tier ≠ tier) :
    ∃ q' there, q.move id tier now = .ok (q', there) ∧ q'.Orderly now ∧
      q'.keys = q.keys ∧ there = (q.find? id).isSome := by
  cases hf : q.find? id with
  | none => exact ⟨q, false, by simp [Queue.move, hf], h, rfl, rfl⟩
  | some e =>
    obtain ⟨he, rfl⟩ := h.filed.find?_eq_some_iff.mp hf
    have hne : e.tier ≠ tier := elsewhere e he rfl
    have rest := h.timely.filter_lane_of_tier_ne he e.key hne
    obtain ⟨q', hm, hkeys, hlane⟩ := h.timely.move_in_place he tier now (by
      rw [rest]
      exact placeOf_le _ _)
    refine ⟨q', true, hm, (h.timely.move hm).orderly fun k p => ?_, hkeys, rfl⟩
    rw [hlane]
    split
    next hk =>
      obtain ⟨rfl, rfl⟩ := hk
      rw [rest]
      exact insertIdx_ascending (h.ascending _ _) (h.timely.not_mem_lane he hne)
    next => exact (h.ascending k p).filter _

theorem of_move {id : EntryId} {tier : Priority} {q' : Queue} {there : Bool}
    (elsewhere : ∀ e ∈ q.entries, e.id = id → e.tier ≠ tier)
    (hm : q.move id tier now = .ok (q', there)) : q'.Orderly now := by
  obtain ⟨_, _, hm', hq, _⟩ := h.move elsewhere
  cases hm.symm.trans hm'
  exact hq

end Orderly

end Queue

end InferenceDispatch
