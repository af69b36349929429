import InferenceDispatch.Proofs.Scheduler.Books
import InferenceDispatch.Scheduling.Strategy
import Mathlib.Data.List.Induction

namespace InferenceDispatch

/-- A key may be served: it has an entry, its model has a free slot, and its provider takes work for it. -/
def Gate.Servable (g : Gate) (w : WorkTable) (q : Queue) (key : QueueKey) : Prop :=
  (∃ e ∈ q.entries, e.key = key) ∧ 0 < w.available key.model ∧ g.admitsWork key = true

/-- The entry is the next of a key that may be served. -/
def Contends (g : Gate) (w : WorkTable) (q : Queue) (e : Entry) : Prop :=
  q.Leads e ∧ g.Servable w q e.key

theorem Gate.servable_iff {g : Gate} {w : WorkTable} {q : Queue} {e : Entry} (he : e ∈ q.entries) :
    g.Servable w q e.key ↔ g.eligible w e.key = true := by
  have waits : ∃ o ∈ q.entries, o.key = e.key := ⟨e, he, rfl⟩
  simp [Gate.Servable, Gate.eligible, waits]

section Strategy

variable {α : Type} [OfScientific α] [Add α] [Sub α] [Mul α] [LE α] [LT α]
  [DecidableLE α] [DecidableLT α]

omit [Mul α] in
theorem foldl_better_eq_none_iff {l : List (α × Entry)} : l.foldl better none = none ↔ l = [] := by
  rcases List.eq_nil_or_concat l with rfl | ⟨l, a, rfl⟩
  · simp
  · rw [List.concat_eq_append, List.foldl_append, List.foldl_cons, List.foldl_nil]
    cases l.foldl better none with
    | none => simp [better]
    | some best => cases hd : displaces a best <;> simp [better, hd]

omit [Mul α] in
/-- What holds of a single head, and is kept while the best one stays and when it is displaced, holds of
the best of all heads. -/
theorem best_induction {f : Entry → α} {P : List Entry → Entry → Prop} (single : ∀ e, P [e] e)
    (stays : ∀ l best e, P l best → displaces (f e, e) (f best, best) = false → P (l ++ [e]) best)
    (yields : ∀ l best e, P l best → displaces (f e, e) (f best, best) = true → P (l ++ [e]) e)
    {l : List Entry} {best : α × Entry}
    (h : (l.map fun e => (f e, e)).foldl better none = some best) :
    ∃ e, best = (f e, e) ∧ P l e := by
  -- by the heads seen so far: the last one is compared with the best of those before it
  induction l using List.reverseRecOn generalizing best with
  | nil => simp at h
  | append_singleton l e ih =>
    rw [List.map_append, List.foldl_append, List.map_singleton, List.foldl_cons, List.foldl_nil] at h
    cases hl : (l.map fun e => (f e, e)).foldl better none with
    | none =>
      obtain rfl := List.map_eq_nil_iff.mp (foldl_better_eq_none_iff.mp hl)
      cases h
      exact ⟨e, rfl, single e⟩
    | some b =>
      obtain ⟨b, rfl, hb⟩ := ih hl
      cases hd : displaces (f e, e) (f b, b) with
      | false =>
        obtain rfl : (f b, b) = best := by simpa [hl, better, hd] using h
        exact ⟨b, rfl, stays l b e hb hd⟩
      | true =>
        obtain rfl : (f e, e) = best := by simpa [hl, better, hd] using h
        exact ⟨e, rfl, yields l b e hb hd⟩

namespace Strategy

theorem choose_mem {s : Strategy α} {g : Gate} {w : WorkTable} {q : Queue} {e : Entry}
    (h : s.choose g w q = some e) : e ∈ heads g w q := by
  cases s with
  | firstCome => exact List.mem_of_mem_head? h
  | scored weights =>
    obtain ⟨b, hb, rfl⟩ := Option.map_eq_some_iff.mp h
    obtain ⟨e, rfl, he⟩ := best_induction (P := fun l best => best ∈ l) (fun _ => List.mem_cons_self)
      (fun _ _ _ hm _ => List.mem_append_left _ hm) (fun _ _ _ _ _ => List.mem_concat_self) hb
    exact he

theorem choose_eq_none_iff {s : Strategy α} {g : Gate} {w : WorkTable} {q : Queue} :
    s.choose g w q = none ↔ heads g w q = [] := by
  cases s with
  | firstCome => exact List.head?_eq_none_iff
  | scored weights =>
    rw [choose, Option.map_eq_none_iff, foldl_better_eq_none_iff, List.map_eq_nil_iff]

theorem mem_heads_iff {g : Gate} {w : WorkTable} {q : Queue} (filed : q.Filed) {e : Entry} :
    e ∈ heads g w q ↔ Contends g w q e := by
  rw [heads, List.mem_filterMap]
  constructor
  · rintro ⟨key, hkey, hf⟩
    obtain ⟨hleads, rfl⟩ := filed.front?_eq_some_iff.mp hf
    exact ⟨hleads, (Gate.servable_iff hleads.waiting).mpr (List.mem_filter.mp hkey).2⟩
  · rintro ⟨hleads, hservable⟩
    have heligible := (Gate.servable_iff hleads.waiting).mp hservable
    exact ⟨e.key, List.mem_filter.mpr ⟨filed.key_mem hleads.waiting, heligible⟩,
      filed.front?_eq_some_iff.mpr ⟨hleads, rfl⟩⟩

theorem heads_eq_nil_iff {g : Gate} {w : WorkTable} {q : Queue} (filed : q.Filed) :
    heads g w q = [] ↔ ∀ key, ¬g.Servable w q key := by
  constructor
  · rintro hnil key hservable
    obtain ⟨e, he, rfl⟩ := hservable.1
    obtain ⟨o, hf⟩ := filed.front?_isSome he
    obtain ⟨hleads, hkey⟩ := filed.front?_eq_some_iff.mp hf
    exact List.not_mem_nil (hnil ▸ (mem_heads_iff filed).mpr ⟨hleads, hkey ▸ hservable⟩)
  · intro hnone
    refine List.eq_nil_iff_forall_not_mem.mpr fun e he => ?_
    exact hnone e.key ((mem_heads_iff filed).mp he).2

theorem choose_of_servable (s : Strategy α) {g : Gate} {w : WorkTable} {q : Queue} (filed : q.Filed)
    {key : QueueKey} (h : g.Servable w q key) : ∃ e, s.choose g w q = some e := by
  refine Option.ne_none_iff_exists'.mp fun hnone => ?_
  exact (heads_eq_nil_iff filed).mp (choose_eq_none_iff.mp hnone) key h

theorem choose_firstCome {g : Gate} {w : WorkTable} {q : Queue} (filed : q.Filed) {e : Entry}
    (h : (firstCome : Strategy α).choose g w q = some e) : ∃ earlier later,
      q.keys = earlier ++ e.key :: later ∧ ∀ key ∈ earlier, ¬g.Servable w q key := by
  have hfirst : (q.keys.findSome? fun k => if g.eligible w k then q.front? k none else none) =
      some e := by
    rw [← List.head?_filterMap, ← List.filterMap_filter]
    exact h
  obtain ⟨earlier, key, later, hkeys, hf, passed⟩ := List.findSome?_eq_some_iff.mp hfirst
  split at hf
  next =>
    obtain ⟨_, rfl⟩ := filed.front?_eq_some_iff.mp hf
    refine ⟨earlier, later, hkeys, fun key hkey hservable => ?_⟩
    obtain ⟨o, ho, rfl⟩ := hservable.1
    obtain ⟨o', ho'⟩ := filed.front?_isSome ho
    have hpassed := passed o.key hkey
    rw [if_pos ((Gate.servable_iff ho).mp hservable), ho'] at hpassed
    cases hpassed
  next => cases hf

theorem mem_heads {g : Gate} {w : WorkTable} {q : Queue} (filed : q.Filed) {e : Entry}
    (h : e ∈ heads g w q) : e ∈ q.entries ∧ g.eligible w e.key := by
  obtain ⟨hleads, hservable⟩ := (mem_heads_iff filed).mp h
  exact ⟨hleads.waiting, (Gate.servable_iff hleads.waiting).mp hservable⟩

end Strategy

theorem Scheduler.schedule_spec {s s' : Scheduler} (h : s.Exact) {strategy : Strategy α} {g : Gate}
    {w : WorkTable} {now : Time} {won : Scheduled}
    (hs : s.schedule strategy g w now = some (won, s')) :
    s'.Exact ∧ s'.issued = s.issued ∧ ∃ e ∈ s.queue.entries, g.eligible w e.key ∧
      won = ⟨e.task, e.id, e.key, e.tier, e.waited now⟩ ∧
      s'.queue.entries = s.queue.entries.filter fun o => o.task.id ≠ e.task.id := by
  obtain ⟨head, hhead, hclaim⟩ := Option.bind_eq_some_iff.mp hs
  obtain ⟨hm, heligible⟩ := Strategy.mem_heads h.filed (Strategy.choose_mem hhead)
  obtain ⟨exact', issued', e, he, hid, hwon, hleft⟩ := claim?_spec h hclaim
  obtain rfl := h.filed.eq_of_id_eq he hm hid
  exact ⟨exact', issued', e, he, heligible, hwon, hleft⟩

end Strategy

end InferenceDispatch
