import InferenceDispatch.Proofs.Lookup
import InferenceDispatch.Scheduling.Queue

namespace InferenceDispatch

namespace Priority

theorem value_injective {a b : Priority} (h : a.value = b.value) : a = b := by
  cases a <;> cases b <;> first | rfl | cases h

theorem mem_descending (p : Priority) : p ∈ descending := by cases p <;> decide

theorem mem_of_value_lt {higher lower : List Priority} {tier p : Priority}
    (htiers : descending = higher ++ tier :: lower) (hlt : tier.value < p.value) : p ∈ higher := by
  have sorted : descending.Pairwise fun a b => b.value < a.value := by decide
  have hp := mem_descending p
  rw [htiers] at sorted hp
  obtain ⟨_, sorted, _⟩ := List.pairwise_append.mp sorted
  rcases List.mem_append.mp hp with hp | hp
  · exact hp
  · rcases List.mem_cons.mp hp with rfl | hp
    · omega
    · have := (List.pairwise_cons.mp sorted).1 p hp
      omega

end Priority

namespace Queue

/-- The numbers in one lane of a key; none if the key has no lanes. -/
def lane (q : Queue) (key : QueueKey) (tier : Priority) : List EntryId :=
  ((q.lanes.get? key).map fun l => l.lane tier).getD []

/-- The entries stand in the order of their numbers, each is in the lane of its key and tier, and the
lanes hold each number once and no others. The listed keys are those that have lanes, each once. -/
structure Filed (q : Queue) : Prop where
  ascending : q.entries.Pairwise fun a b => a.id < b.id
  issued : ∀ e ∈ q.entries, e.id ≤ q.issued
  keys : q.keys.Perm q.lanes.keys
  nodup : ∀ key tier, (q.lane key tier).Nodup
  mem_lane : ∀ key tier id,
    id ∈ q.lane key tier ↔ ∃ e ∈ q.entries, e.id = id ∧ e.key = key ∧ e.tier = tier

theorem filed_empty : empty.Filed :=
  ⟨List.Pairwise.nil, by simp [empty], .nil, by simp [lane, empty], by simp [lane, empty]⟩

theorem head?_lane (q : Queue) (key : QueueKey) (only : Option Priority) :
    ((q.lanes.get? key).bind fun l => l.front? only) =
      match only with
      | some tier => (q.lane key tier).head?
      | none => Priority.descending.findSome? fun tier => (q.lane key tier).head? := by
  cases hl : q.lanes.get? key with
  | none => cases only <;> simp [lane, hl, Priority.descending]
  | some l => cases only <;> simp [lane, hl, Lanes.front?]

theorem front?_eq_bind (q : Queue) (key : QueueKey) (only : Option Priority) :
    q.front? key only = ((q.lanes.get? key).bind fun l => l.front? only).bind q.find? := by
  simp [front?, Option.bind_assoc]

/-- The entry is the next of its key: it stands in front of its lane, and no entry of the key is in a
higher tier. -/
structure Leads (q : Queue) (e : Entry) : Prop where
  waiting : e ∈ q.entries
  first : (q.lane e.key e.tier).head? = some e.id
  highest : ∀ o ∈ q.entries, o.key = e.key → o.tier.value ≤ e.tier.value

namespace Filed

variable {q : Queue} (h : q.Filed)
include h

theorem nodup_ids : (q.entries.map Entry.id).Nodup :=
  List.pairwise_map.mpr (h.ascending.imp fun hlt => Nat.ne_of_lt hlt)

theorem find?_eq_some_iff {id : EntryId} {e : Entry} :
    q.find? id = some e ↔ e ∈ q.entries ∧ e.id = id :=
  find?_key_eq_some_iff h.nodup_ids

theorem eq_of_id_eq {a b : Entry} (ha : a ∈ q.entries) (hb : b ∈ q.entries) (he : a.id = b.id) :
    a = b :=
  List.inj_on_of_nodup_map h.nodup_ids ha hb he

theorem lanes_of_mem {e : Entry} (he : e ∈ q.entries) :
    ∃ l, q.lanes.get? e.key = some l ∧ e.id ∈ l.lane e.tier := by
  have hm := (h.mem_lane e.key e.tier e.id).mpr ⟨e, he, rfl, rfl, rfl⟩
  cases hl : q.lanes.get? e.key with
  | none => simp [lane, hl] at hm
  | some l => exact ⟨l, rfl, by simpa [lane, hl] using hm⟩

theorem nodup_keys : q.keys.Nodup := h.keys.nodup_iff.mpr q.lanes.nodup

theorem mem_keys {key : QueueKey} : key ∈ q.keys ↔ ∃ l, q.lanes.get? key = some l := by
  rw [h.keys.mem_iff, ← Option.ne_none_iff_exists', ne_eq, Table.get?_eq_none_iff, not_not]

theorem key_mem {e : Entry} (he : e ∈ q.entries) : e.key ∈ q.keys := by
  obtain ⟨l, hl, _⟩ := h.lanes_of_mem he
  exact h.mem_keys.mpr ⟨l, hl⟩

theorem filter_lane_of_ne {e : Entry} (he : e ∈ q.entries) {k : QueueKey} {p : Priority}
    (hne : ¬(k = e.key ∧ p = e.tier)) : (q.lane k p).filter (· ≠ e.id) = q.lane k p := by
  refine List.filter_eq_self.mpr fun x hx => ?_
  obtain ⟨o, ho, rfl, hk, hp⟩ := (h.mem_lane k p x).mp hx
  simp only [ne_eq, decide_eq_true_eq]
  intro hid
  have := h.eq_of_id_eq ho he hid
  subst this
  exact hne ⟨hk.symm, hp.symm⟩

theorem mem_lane_without (id : EntryId) {k : QueueKey} {p : Priority} {x : EntryId} :
    x ∈ (q.lane k p).filter (· ≠ id) ↔
      ∃ o ∈ q.entries, o.id ≠ id ∧ o.id = x ∧ o.key = k ∧ o.tier = p := by
  rw [List.mem_filter, h.mem_lane]
  constructor
  · rintro ⟨⟨o, ho, rfl, hk⟩, hne⟩
    exact ⟨o, ho, by simpa using hne, rfl, hk⟩
  · rintro ⟨o, ho, hne, rfl, hk⟩
    exact ⟨⟨o, ho, rfl, hk⟩, by simpa using hne⟩

theorem lane_detach {e : Entry} (he : e ∈ q.entries) {l : Lanes} (hl : q.lanes.get? e.key = some l)
    (p : Priority) : (l.detach e.tier e.id).lane p = (q.lane e.key p).filter (· ≠ e.id) := by
  have hlane : q.lane e.key p = l.lane p := by simp [lane, hl]
  unfold Lanes.detach
  rw [Lanes.lane_set]
  split
  next hp =>
    subst hp
    have nodup := h.nodup e.key e.tier
    rw [hlane] at nodup ⊢
    rw [nodup.erase_eq_filter]
    exact List.filter_congr fun x _ => by simp [bne, beq_eq_decide]
  next hp => rw [h.filter_lane_of_ne he fun hc => hp hc.2, hlane]

theorem length_lane (key : QueueKey) (tier : Priority) : (q.lane key tier).length =
    q.entries.countP fun e => e.key = key ∧ e.tier = tier := by
  rw [List.countP_eq_length_filter, ← List.length_map Entry.id]
  have nodup : ((q.entries.filter fun e => e.key = key ∧ e.tier = tier).map Entry.id).Nodup :=
    h.nodup_ids.sublist (List.filter_sublist.map _)
  refine length_eq_of_mem_iff nodup (h.nodup key tier) fun id => ?_
  rw [h.mem_lane]
  simp only [List.mem_map, List.mem_filter, decide_eq_true_eq]
  constructor
  · rintro ⟨e, he, hid, hk⟩
    exact ⟨e, ⟨he, hk⟩, hid⟩
  · rintro ⟨e, ⟨he, hk⟩, hid⟩
    exact ⟨e, he, hid, hk⟩

theorem front?_mem {key : QueueKey} {only : Option Priority} {e : Entry}
    (hf : q.front? key only = some e) : e ∈ q.entries ∧ e.key = key := by
  obtain ⟨l, hl, hf⟩ := Option.bind_eq_some_iff.mp hf
  obtain ⟨id, hid, hf⟩ := Option.bind_eq_some_iff.mp hf
  obtain ⟨he, rfl⟩ := h.find?_eq_some_iff.mp hf
  have ⟨tier, ht⟩ : ∃ tier, e.id ∈ l.lane tier := by
    cases only with
    | some tier => exact ⟨tier, List.mem_of_mem_head? hid⟩
    | none =>
      obtain ⟨tier, _, ht⟩ := List.exists_of_findSome?_eq_some hid
      exact ⟨tier, List.mem_of_mem_head? ht⟩
  obtain ⟨e', he', hid', hk, _⟩ := (h.mem_lane key tier e.id).mp (by simpa [lane, hl] using ht)
  exact ⟨he, h.eq_of_id_eq he he' hid'.symm ▸ hk⟩

theorem front?_isSome {e : Entry} (he : e ∈ q.entries) : ∃ o, q.front? e.key none = some o := by
  have hm := (h.mem_lane e.key e.tier e.id).mpr ⟨e, he, rfl, rfl, rfl⟩
  have hne : ((q.lanes.get? e.key).bind fun l => l.front? none) ≠ none := by
    rw [head?_lane]
    intro hnone
    have hempty := List.findSome?_eq_none_iff.mp hnone e.tier (Priority.mem_descending e.tier)
    exact List.not_mem_nil (List.head?_eq_none_iff.mp hempty ▸ hm)
  obtain ⟨id, hid⟩ := Option.ne_none_iff_exists'.mp hne
  have hin := hid
  rw [head?_lane] at hin
  obtain ⟨tier, _, hhead⟩ := List.exists_of_findSome?_eq_some hin
  obtain ⟨o, ho, rfl, _⟩ := (h.mem_lane e.key tier id).mp (List.mem_of_mem_head? hhead)
  refine ⟨o, ?_⟩
  rw [front?_eq_bind, hid]
  exact h.find?_eq_some_iff.mpr ⟨ho, rfl⟩

theorem leads_of_front? {key : QueueKey} {e : Entry} (hf : q.front? key none = some e) :
    q.Leads e := by
  obtain ⟨he, hkey⟩ := h.front?_mem hf
  rw [front?_eq_bind] at hf
  obtain ⟨id, hid, hfind⟩ := Option.bind_eq_some_iff.mp hf
  obtain ⟨_, rfl⟩ := h.find?_eq_some_iff.mp hfind
  rw [head?_lane] at hid
  obtain ⟨higher, tier, lower, htiers, hhead, hempty⟩ := List.findSome?_eq_some_iff.mp hid
  obtain ⟨e', he', hid', _, ht⟩ := (h.mem_lane key tier e.id).mp (List.mem_of_mem_head? hhead)
  obtain rfl := h.eq_of_id_eq he' he hid'
  subst ht hkey
  refine ⟨he, hhead, fun o ho hok => ?_⟩
  by_contra hlt
  have hm := (h.mem_lane e'.key o.tier o.id).mpr ⟨o, ho, rfl, hok, rfl⟩
  have hnil := List.head?_eq_none_iff.mp
    (hempty o.tier (Priority.mem_of_value_lt htiers (Nat.lt_of_not_le hlt)))
  exact List.not_mem_nil (hnil ▸ hm)

theorem leads_unique {a b : Entry} (ha : q.Leads a) (hb : q.Leads b) (hkey : a.key = b.key) : a = b := by
  have htier := Priority.value_injective (Nat.le_antisymm (hb.highest a ha.waiting hkey)
    (ha.highest b hb.waiting hkey.symm))
  have hfirst := hb.first
  rw [← hkey, ← htier, ha.first] at hfirst
  exact h.eq_of_id_eq ha.waiting hb.waiting (Option.some.inj hfirst)

theorem front?_eq_some_iff {key : QueueKey} {e : Entry} :
    q.front? key none = some e ↔ q.Leads e ∧ e.key = key := by
  constructor
  · exact fun hf => ⟨h.leads_of_front? hf, (h.front?_mem hf).2⟩
  · rintro ⟨hleads, rfl⟩
    obtain ⟨o, hf⟩ := h.front?_isSome hleads.waiting
    rw [hf, h.leads_unique (h.leads_of_front? hf) hleads (h.front?_mem hf).2]

end Filed

theorem lane_modify {q : Queue} {key : QueueKey} {f : Lanes → Lanes} {l : Lanes}
    (hl : q.lanes.get? key = some l) (entries : List Entry) (k : QueueKey) (tier : Priority) :
    lane { q with lanes := q.lanes.modify key f, entries } k tier =
      if k = key then (f l).lane tier else q.lane k tier := by
  unfold lane
  rw [Table.get?_modify]
  split
  next hk => simp [hk, hl]
  next => rfl

section Enqueue

variable (q : Queue) (task : Task) (key : QueueKey) (tier : Priority) (now : Time)

def entryFor : Entry := ⟨q.issued + 1, task, key, tier, tier, now, 0, none⟩

theorem entries_enqueue :
    (q.enqueue task key tier now).1.entries = q.entries ++ [q.entryFor task key tier now] := rfl

theorem lane_enqueue (k : QueueKey) (p : Priority) :
    (q.enqueue task key tier now).1.lane k p =
      if k = key ∧ p = tier then q.lane k p ++ [q.issued + 1] else q.lane k p := by
  unfold enqueue lane
  simp only [Table.get?_modify, Table.get?_insertNew]
  by_cases hk : k = key
  · subst hk
    cases q.lanes.get? k with
    | none => by_cases hp : p = tier <;> simp [Lanes.push, Lanes.lane_set, hp]
    | some l => by_cases hp : p = tier <;> simp [Lanes.push, Lanes.lane_set, hp]
  · simp [hk]

/-- A key is listed when it is first used. -/
theorem keys_enqueue {q : Queue} (h : q.Filed) : (q.enqueue task key tier now).1.keys =
    if key ∈ q.keys then q.keys else q.keys ++ [key] := by
  have known : q.lanes.contains key = true ↔ key ∈ q.keys := by rw [h.mem_keys, Table.contains_iff]
  simp only [enqueue, known]

theorem filed_enqueue {q : Queue} (h : q.Filed) : (q.enqueue task key tier now).1.Filed where
  ascending := by
    rw [entries_enqueue]
    refine List.pairwise_append.mpr ⟨h.ascending, by simp, ?_⟩
    intro a ha b hb
    simp only [List.mem_singleton] at hb
    subst hb
    exact Nat.lt_succ_of_le (h.issued a ha)
  issued := by
    intro e he
    rcases List.mem_append.mp he with he | he
    · exact Nat.le_succ_of_le (h.issued e he)
    · simp only [List.mem_singleton] at he
      simp [he, enqueue]
  keys := by
    have lanes : (q.enqueue task key tier now).1.lanes.keys =
        if key ∈ q.keys then q.lanes.keys else q.lanes.keys ++ [key] := by
      simp only [enqueue, Table.keys_modify, Table.keys_insertNew, h.keys.mem_iff]
    rw [keys_enqueue task key tier now h, lanes]
    split
    · exact h.keys
    · exact h.keys.append_right [key]
  nodup := by
    intro k p
    rw [lane_enqueue]
    split
    · refine List.nodup_append.mpr ⟨h.nodup k p, by simp, ?_⟩
      intro a ha b hb
      obtain ⟨e, he, rfl, _⟩ := (h.mem_lane k p a).mp ha
      simp only [List.mem_singleton] at hb
      exact hb ▸ Nat.ne_of_lt (Nat.lt_succ_of_le (h.issued e he))
    · exact h.nodup k p
  mem_lane := by
    intro k p id
    rw [lane_enqueue, entries_enqueue]
    simp only [List.mem_append, List.mem_singleton, or_and_right, exists_or, exists_eq_left,
      ← h.mem_lane, entryFor]
    split
    next hk => simp [hk, eq_comm]
    next hk =>
      have : ¬(key = k ∧ tier = p) := fun hc => hk ⟨hc.1.symm, hc.2.symm⟩
      simp [this]

end Enqueue

section Take

variable {q : Queue} {id : EntryId}

theorem take?_eq_none_iff : q.take? id = none ↔ ∀ e ∈ q.entries, e.id ≠ id := by
  simp [take?, find?]

theorem lane_take? (h : q.Filed) {e : Entry} {q' : Queue} (ht : q.take? id = some (e, q'))
    (k : QueueKey) (p : Priority) : q'.lane k p = (q.lane k p).filter (· ≠ id) := by
  obtain ⟨e', hf, he⟩ := Option.map_eq_some_iff.mp ht
  obtain ⟨rfl, rfl⟩ := Prod.mk.inj he
  obtain ⟨hm, rfl⟩ := h.find?_eq_some_iff.mp hf
  obtain ⟨l, hl, _⟩ := h.lanes_of_mem hm
  rw [lane_modify hl]
  split
  next hk => rw [hk, h.lane_detach hm hl]
  next hk => rw [h.filter_lane_of_ne hm fun hc => hk hc.1]

theorem take?_eq_some (h : q.Filed) {e : Entry} {q' : Queue} (ht : q.take? id = some (e, q')) :
    e ∈ q.entries ∧ e.id = id ∧ q'.entries = q.entries.filter (fun o => o.id ≠ id) ∧
      q'.issued = q.issued ∧ q'.Filed := by
  have hlane := lane_take? h ht
  obtain ⟨e', hf, he⟩ := Option.map_eq_some_iff.mp ht
  obtain ⟨rfl, rfl⟩ := Prod.mk.inj he
  obtain ⟨hm, hid⟩ := h.find?_eq_some_iff.mp hf
  refine ⟨hm, hid, rfl, rfl, ?_⟩
  exact
    { ascending := h.ascending.filter _
      issued := fun o ho => h.issued o (List.mem_of_mem_filter ho)
      keys := by rw [Table.keys_modify]; exact h.keys
      nodup := fun k p => by rw [hlane]; exact (h.nodup k p).filter _
      mem_lane := fun k p x => by
        rw [hlane, h.mem_lane_without]
        simp only [List.mem_filter, decide_eq_true_eq, and_assoc] }

theorem remove_spec (h : q.Filed) (id : EntryId) :
    (q.remove id).1.entries = q.entries.filter (fun o => o.id ≠ id) ∧
      (q.remove id).1.issued = q.issued ∧ (q.remove id).1.Filed ∧
      ((q.remove id).2 = true ↔ ∃ e ∈ q.entries, e.id = id) := by
  unfold remove
  cases ht : q.take? id with
  | none =>
    have absent := take?_eq_none_iff.mp ht
    refine ⟨?_, rfl, h, ?_⟩
    · exact (List.filter_eq_self.mpr fun e he => by simpa using absent e he).symm
    · simpa using absent
  | some r =>
    obtain ⟨e, q'⟩ := r
    obtain ⟨he, hid, hq, hi, hf⟩ := take?_eq_some h ht
    exact ⟨hq, hi, hf, by simpa using ⟨e, he, hid⟩⟩

end Take

section Move

variable {q q' : Queue} {id : EntryId} {tier : Priority} {now : Time} {there : Bool}

def moved (id : EntryId) (tier : Priority) (now : Time) (e : Entry) : Entry :=
  if e.id = id then { e with tier, moves := e.moves + 1, movedAt := some now } else e

@[simp] theorem moved_id (e : Entry) : (moved id tier now e).id = e.id := by
  unfold moved; split <;> rfl

@[simp] theorem moved_task (e : Entry) : (moved id tier now e).task = e.task := by
  unfold moved; split <;> rfl

@[simp] theorem moved_key (e : Entry) : (moved id tier now e).key = e.key := by
  unfold moved; split <;> rfl

@[simp] theorem moved_enqueuedAt (e : Entry) :
    (moved id tier now e).enqueuedAt = e.enqueuedAt := by
  unfold moved; split <;> rfl

theorem map_moved_of_absent (absent : ∀ e ∈ q.entries, e.id ≠ id) :
    q.entries.map (moved id tier now) = q.entries := by
  refine (List.map_congr_left fun e he => ?_).trans (List.map_id _)
  simp [moved, absent e he]

theorem placeIn_le (q : Queue) (e : Entry) (lane : List EntryId) :
    q.placeIn e lane ≤ lane.length := by
  unfold placeIn
  cases hf : lane.findIdx? fun id => (q.find? id).any fun o => e.before o with
  | none => exact Nat.le_refl _
  | some i => exact Nat.le_of_lt (List.findIdx?_eq_some_iff_findIdx_eq.mp hf).1

/-- A move that returns is either of an unknown number, or it puts the number into its new lane. -/
theorem move_cases (h : q.Filed) (hm : q.move id tier now = .ok (q', there)) :
    ((∀ e ∈ q.entries, e.id ≠ id) ∧ q' = q ∧ there = false) ∨
    ∃ e ∈ q.entries, e.id = id ∧ there = true ∧
      ∃ l, q.lanes.get? e.key = some l ∧
        let rest := l.detach e.tier id
        ∃ place ≤ (rest.lane tier).length,
          q' = { q with
            lanes := q.lanes.modify e.key fun _ => rest.set tier ((rest.lane tier).insertIdx place id)
            entries := q.entries.map (moved id tier now) } := by
  unfold move at hm
  split at hm
  next hf =>
    obtain ⟨rfl, rfl⟩ := Prod.mk.inj (Except.ok.inj hm)
    exact Or.inl ⟨by simpa [find?] using hf, rfl, rfl⟩
  next e hf =>
    obtain ⟨he, hid⟩ := h.find?_eq_some_iff.mp hf
    obtain ⟨l, hl, _⟩ := h.lanes_of_mem he
    simp only [hl] at hm
    split at hm
    next hp =>
      obtain ⟨rfl, rfl⟩ := Prod.mk.inj (Except.ok.inj hm)
      exact Or.inr ⟨e, he, hid, rfl, l, hl, _, hp, rfl⟩
    next => simp at hm

theorem lane_move (h : q.Filed) {e : Entry} (he : e ∈ q.entries) {l : Lanes}
    (hl : q.lanes.get? e.key = some l) {place : Nat}
    (hp : place ≤ ((l.detach e.tier e.id).lane tier).length) (entries : List Entry) (k : QueueKey)
    (p : Priority) :
    (lane { q with
        lanes := q.lanes.modify e.key fun _ => (l.detach e.tier e.id).set tier
          (((l.detach e.tier e.id).lane tier).insertIdx place e.id)
        entries } k p).Perm
      (if k = e.key ∧ p = tier then e.id :: (q.lane k p).filter (· ≠ e.id)
       else (q.lane k p).filter (· ≠ e.id)) := by
  rw [lane_modify hl, Lanes.lane_set]
  by_cases hk : k = e.key
  · subst hk
    by_cases ht : p = tier
    · subst ht
      simp only [↓reduceIte, and_self]
      rw [← h.lane_detach he hl]
      exact List.perm_insertIdx _ _ hp
    · simp only [↓reduceIte, ht, and_false]
      rw [h.lane_detach he hl]
  · simp only [hk, ↓reduceIte, false_and]
    rw [h.filter_lane_of_ne he fun hc => hk hc.1]

theorem exists_moved_iff (h : q.Filed) {e : Entry} (he : e ∈ q.entries) {k : QueueKey}
    {p : Priority} : (∃ o ∈ q.entries.map (moved e.id tier now), o.id = id ∧ o.key = k ∧ o.tier = p) ↔
      (e.id = id ∧ e.key = k ∧ tier = p) ∨ id ∈ (q.lane k p).filter (· ≠ e.id) := by
  rw [h.mem_lane_without]
  constructor
  · rintro ⟨o, ho, hid, hk, ht⟩
    obtain ⟨x, hx, rfl⟩ := List.mem_map.mp ho
    rw [moved_id] at hid
    rw [moved_key] at hk
    by_cases hxe : x.id = e.id
    · obtain rfl := h.eq_of_id_eq hx he hxe
      exact Or.inl ⟨hid, hk, by simpa [moved] using ht⟩
    · exact Or.inr ⟨x, hx, hxe, hid, hk, by simpa [moved, hxe] using ht⟩
  · rintro (⟨hid, hk, ht⟩ | ⟨o, ho, hoe, hid, hk, ht⟩)
    · exact ⟨_, List.mem_map_of_mem he, by simpa using hid, by simpa using hk,
        by simpa [moved] using ht⟩
    · exact ⟨_, List.mem_map_of_mem ho, by simpa using hid, by simpa using hk,
        by simpa [moved, hoe] using ht⟩

theorem filed_move (h : q.Filed) {e : Entry} (he : e ∈ q.entries) {l : Lanes}
    (hl : q.lanes.get? e.key = some l) {place : Nat}
    (hp : place ≤ ((l.detach e.tier e.id).lane tier).length) :
    Filed { q with
      lanes := q.lanes.modify e.key fun _ => (l.detach e.tier e.id).set tier
        (((l.detach e.tier e.id).lane tier).insertIdx place e.id)
      entries := q.entries.map (moved e.id tier now) } where
  ascending := by
    refine List.pairwise_map.mpr (h.ascending.imp ?_)
    intro a b hab
    simpa using hab
  issued := by
    intro o ho
    obtain ⟨x, hx, rfl⟩ := List.mem_map.mp ho
    simpa using h.issued x hx
  keys := by
    rw [Table.keys_modify]
    exact h.keys
  nodup := by
    intro k p
    have rest : ((q.lane k p).filter (· ≠ e.id)).Nodup := (h.nodup k p).filter _
    refine (lane_move h he hl hp _ k p).nodup_iff.mpr ?_
    split
    · exact List.nodup_cons.mpr ⟨by simp, rest⟩
    · exact rest
  mem_lane := by
    intro k p id
    rw [(lane_move h he hl hp _ k p).mem_iff]
    rw [exists_moved_iff h he]
    split
    next hc =>
      obtain ⟨rfl, rfl⟩ := hc
      simp [eq_comm (a := id)]
    next hc =>
      have : ¬(e.key = k ∧ tier = p) := fun h' => hc ⟨h'.1.symm, h'.2.symm⟩
      simp [this]

/-- A move that returns changes the tier of the entry and nothing else. -/
theorem move_spec (h : q.Filed) (hm : q.move id tier now = .ok (q', there)) :
    q'.entries = q.entries.map (moved id tier now) ∧ q'.issued = q.issued ∧ q'.Filed ∧
      (there = true ↔ ∃ e ∈ q.entries, e.id = id) := by
  rcases move_cases h hm with ⟨absent, rfl, rfl⟩ | ⟨e, he, rfl, rfl, l, hl, place, hp, rfl⟩
  · exact ⟨(map_moved_of_absent absent).symm, rfl, h, by simpa using absent⟩
  · exact ⟨rfl, rfl, filed_move h he hl hp, by simpa using ⟨e, he, rfl⟩⟩

theorem move_returns (h : q.Filed) (elsewhere : ∀ e ∈ q.entries, e.id = id → e.tier ≠ tier) :
    ∃ r, q.move id tier now = .ok r := by
  unfold move
  cases hf : q.find? id with
  | none => exact ⟨_, rfl⟩
  | some e =>
    obtain ⟨he, hid⟩ := h.find?_eq_some_iff.mp hf
    obtain ⟨l, hl, _⟩ := h.lanes_of_mem he
    have kept : (l.detach e.tier id).lane tier = l.lane tier := by
      rw [Lanes.detach, Lanes.lane_set, if_neg (elsewhere e he hid).symm]
    have hp := q.placeIn_le e (l.lane tier)
    simp [hl, kept, hp]

end Move

section RemoveProvider

variable (q : Queue) (provider : String)

theorem entries_removeProvider : (q.removeProvider provider).1.entries =
    q.entries.filter fun e => e.key.provider ≠ provider := rfl

theorem removed_perm : (q.removeProvider provider).2.Perm
    (q.entries.filter fun e => e.key.provider = provider) :=
  List.mergeSort_perm _ _

theorem lane_removeProvider (k : QueueKey) (p : Priority) :
    (q.removeProvider provider).1.lane k p = if k.provider = provider then [] else q.lane k p := by
  unfold removeProvider lane
  rw [Table.get?_filter]
  cases q.lanes.get? k with
  | none => simp
  | some l => by_cases h : k.provider = provider <;> simp [h, Option.filter]

theorem filed_removeProvider {q : Queue} (h : q.Filed) : (q.removeProvider provider).1.Filed where
  ascending := h.ascending.filter _
  issued := fun e he => h.issued e (List.mem_of_mem_filter he)
  keys := by
    have lanes := Table.keys_filter q.lanes fun key => decide (key.provider ≠ provider)
    exact lanes ▸ h.keys.filter _
  nodup := by
    intro k p
    rw [lane_removeProvider]
    split
    · exact List.nodup_nil
    · exact h.nodup k p
  mem_lane := by
    intro k p id
    rw [lane_removeProvider, entries_removeProvider]
    simp only [List.mem_filter, ne_eq, decide_eq_true_eq]
    split
    next hk =>
      simp only [List.not_mem_nil, false_iff, not_exists, not_and]
      rintro e ⟨_, hne⟩ _ rfl
      exact absurd hk hne
    next hk =>
      rw [h.mem_lane]
      constructor
      · rintro ⟨e, he, hid, rfl, ht⟩
        exact ⟨e, ⟨he, hk⟩, hid, rfl, ht⟩
      · rintro ⟨e, ⟨he, _⟩, hid, hk, ht⟩
        exact ⟨e, he, hid, hk, ht⟩

end RemoveProvider

end Queue

end InferenceDispatch
