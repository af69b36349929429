import InferenceDispatch.Proofs.Lookup
import InferenceDispatch.Proofs.Scheduler.Choice
import InferenceDispatch.Scheduling.Manager

namespace InferenceDispatch

namespace SlotTable

def total (t : SlotTable) (model : String) : Nat := ((t.get? model).map Slots.total).getD 0

variable (t : SlotTable) (model other : String)

theorem busy_register (n : Nat) : (t.register model n).busy other = t.busy other := by
  unfold register busy
  rw [Table.get?_modify, Table.get?_insertNew]
  split
  next => cases t.get? other <;> rfl
  next => rfl

theorem busy_ensure (n : Nat) : (t.ensure n model).busy other = t.busy other := by
  unfold ensure busy
  rw [Table.get?_insertNew]
  split
  next => cases t.get? other <;> rfl
  next => rfl

theorem busy_foldl_ensure (n : Nat) (models : List String) :
    (models.foldl (fun t model => t.ensure n model) t).busy other = t.busy other := by
  induction models generalizing t with
  | nil => rfl
  | cons model models ih => rw [List.foldl_cons, ih, busy_ensure]

theorem busy_release : (t.release model).busy other =
    if other = model then t.busy other - 1 else t.busy other := by
  unfold release busy
  rw [Table.get?_modify]
  split
  next => cases t.get? other <;> rfl
  next => rfl

theorem total_release : (t.release model).total other = t.total other := by
  unfold release total
  rw [Table.get?_modify]
  split
  next => cases t.get? other <;> rfl
  next => rfl

theorem available_workTable : t.workTable.available model = t.total model - t.busy model := by
  unfold WorkTable.available workTable total busy
  rw [Table.get?_mapValues]
  cases t.get? model <;> rfl

section Take

variable {t : SlotTable} {model : String} (h : 0 < t.workTable.available model)
include h

theorem take_eq : t.take model = (t.modify model fun s => { s with busy := s.busy + 1 }, true) := by
  rw [available_workTable, total, busy] at h
  unfold take
  cases hg : t.get? model with
  | none => simp [hg] at h
  | some s =>
    simp only [hg, Option.map_some, Option.getD_some] at h
    have free : s.busy < s.total := by omega
    simp [free]

theorem busy_take (other : String) : (t.take model).1.busy other =
    if other = model then t.busy other + 1 else t.busy other := by
  rw [take_eq h, busy, busy, Table.get?_modify]
  split
  next ho =>
    rw [available_workTable, total] at h
    cases hg : t.get? other with
    | none => simp [← ho, hg] at h
    | some s => rfl
  next => rfl

theorem total_take (other : String) : (t.take model).1.total other = t.total other := by
  rw [take_eq h, total, total, Table.get?_modify]
  split
  next => cases t.get? other <;> rfl
  next => rfl

theorem busy_take_le : (t.take model).1.busy model ≤ (t.take model).1.total model := by
  rw [busy_take h, total_take h, if_pos rfl]
  rw [available_workTable] at h
  omega

end Take

end SlotTable

/-- The slot flag, the model and the end time agree with the status. -/
structure TicketState.Sound (s : TicketState) : Prop where
  holds : s.holdsSlot = true ↔ s.status = .scheduled
  model : s.status = .scheduled → ∃ model, s.model = some model
  finished : s.finishedAt = none ↔ s.status.isTerminal = false

namespace Manager

section Holders

variable {m m' : Manager} {model : String} {t : Ticket}

theorem mem_holders : t ∈ m.holders model ↔
    ∃ s, m.tickets.get? t = some s ∧ s.holdsSlot = true ∧ s.model = some model := by
  unfold holders
  simp only [List.mem_map, List.mem_filter, Bool.and_eq_true, decide_eq_true_eq]
  constructor
  · rintro ⟨⟨_, s⟩, ⟨hm, hs⟩, rfl⟩
    exact ⟨s, Table.get?_eq_some_iff.mpr hm, hs⟩
  · rintro ⟨s, hg, hs⟩
    exact ⟨(t, s), ⟨Table.get?_eq_some_iff.mp hg, hs⟩, rfl⟩

theorem nodup_holders (m : Manager) (model : String) : (m.holders model).Nodup :=
  m.tickets.nodup.sublist (List.filter_sublist.map _)

theorem length_holders_congr (h : ∀ t, t ∈ m'.holders model ↔ t ∈ m.holders model) :
    (m'.holders model).length = (m.holders model).length :=
  length_eq_of_mem_iff (nodup_holders m model) (nodup_holders m' model) h

theorem length_holders_succ (new : t ∉ m.holders model)
    (h : ∀ x, x ∈ m'.holders model ↔ x = t ∨ x ∈ m.holders model) :
    (m'.holders model).length = (m.holders model).length + 1 :=
  length_eq_succ_of_mem_iff (nodup_holders m model) (nodup_holders m' model) new h

end Holders

def waitingTask (m : Manager) (t : Ticket) : Option TaskId :=
  (m.tickets.get? t).bind fun s => if s.status = .queued then some s.task else none

theorem waitingTask_eq_some {m : Manager} {t : Ticket} {task : TaskId} :
    m.waitingTask t = some task ↔
      ∃ s, m.tickets.get? t = some s ∧ s.status = .queued ∧ s.task = task := by
  simp [waitingTask, Option.bind_eq_some_iff]

/-- Every entry of the queue is for a queued ticket, under the key of a candidate, and every queued
ticket has an entry. -/
structure Linked (m : Manager) : Prop where
  exact : m.scheduler.Exact
  tasks : ∀ e ∈ m.scheduler.queue.entries, e.task.id ≤ m.scheduler.issued
  keys : ∀ e ∈ m.scheduler.queue.entries,
    ∃ c ∈ e.task.candidates, e.key = ⟨c.model, c.provider⟩
  waiting : ∀ e ∈ m.scheduler.queue.entries, m.waitingTask e.task.ticket = some e.task.id
  queued : ∀ t task, m.waitingTask t = some task →
    ∃ e ∈ m.scheduler.queue.entries, e.task.ticket = t

namespace Linked

variable {m m' : Manager} (h : m.Linked)
include h

theorem same_ticket_iff {a b : Entry} (ha : a ∈ m.scheduler.queue.entries)
    (hb : b ∈ m.scheduler.queue.entries) :
    a.task.id = b.task.id ↔ a.task.ticket = b.task.ticket := by
  constructor
  · intro hab
    rw [h.exact.oneTask a ha b hb hab]
  · intro hab
    have hw := h.waiting a ha
    rw [hab, h.waiting b hb] at hw
    exact (Option.some.inj hw).symm

theorem keep (scheduler : m'.scheduler = m.scheduler)
    (waiting : ∀ t, m'.waitingTask t = m.waitingTask t) : m'.Linked where
  exact := scheduler ▸ h.exact
  tasks := scheduler ▸ h.tasks
  keys := scheduler ▸ h.keys
  waiting := by
    intro e he
    rw [waiting]
    exact h.waiting e (scheduler ▸ he)
  queued := by
    intro t task ht
    rw [waiting] at ht
    exact scheduler ▸ h.queued t task ht

/-- It is kept when entries leave, if just the tickets that have none left stop being queued. -/
theorem of_fewer (exact : m'.scheduler.Exact) (issued : m'.scheduler.issued = m.scheduler.issued)
    (fewer : ∀ e' ∈ m'.scheduler.queue.entries,
      ∃ e ∈ m.scheduler.queue.entries, e.task = e'.task ∧ e.key = e'.key)
    (left : ∀ t task, m'.waitingTask t = some task ↔ m.waitingTask t = some task ∧
      ∃ e ∈ m'.scheduler.queue.entries, e.task.ticket = t) : m'.Linked where
  exact := exact
  tasks := by
    intro e' he'
    obtain ⟨e, he, ht, _⟩ := fewer e' he'
    rw [issued, ← ht]
    exact h.tasks e he
  keys := by
    intro e' he'
    obtain ⟨e, he, ht, hk⟩ := fewer e' he'
    rw [← ht, ← hk]
    exact h.keys e he
  waiting := by
    intro e' he'
    obtain ⟨e, he, ht, _⟩ := fewer e' he'
    exact (left _ _).mpr ⟨ht ▸ h.waiting e he, e', he', rfl⟩
  queued := fun t task ht => ((left t task).mp ht).2

theorem without {e : Entry} (he : e ∈ m.scheduler.queue.entries) (exact : m'.scheduler.Exact)
    (issued : m'.scheduler.issued = m.scheduler.issued)
    (entries : m'.scheduler.queue.entries =
      m.scheduler.queue.entries.filter fun o => o.task.id ≠ e.task.id)
    (waiting : ∀ t, m'.waitingTask t = if t = e.task.ticket then none else m.waitingTask t) :
    m'.Linked := by
  have mem : ∀ o, o ∈ m'.scheduler.queue.entries ↔
      o ∈ m.scheduler.queue.entries ∧ o.task.ticket ≠ e.task.ticket := by
    intro o
    rw [entries, List.mem_filter, decide_eq_true_eq]
    exact and_congr_right fun ho => not_congr (h.same_ticket_iff ho he)
  refine h.of_fewer exact issued (fun o ho => ⟨o, ((mem o).mp ho).1, rfl, rfl⟩) fun t task => ?_
  rw [waiting]
  split
  next ht =>
    subst ht
    simp only [reduceCtorEq, false_iff, not_and, not_exists]
    intro _ o ho
    exact ((mem o).mp ho).2
  next ht =>
    refine ⟨fun hw => ⟨hw, ?_⟩, And.left⟩
    obtain ⟨o, ho, rfl⟩ := h.queued t task hw
    exact ⟨o, (mem o).mpr ⟨ho, ht⟩, rfl⟩

end Linked

/-- The states of the tickets are sound, a result belongs to a scheduled ticket and its model, and
the busy slots of a model are those its tickets hold. -/
structure Accounted (m : Manager) : Prop where
  states : ∀ t s, m.tickets.get? t = some s → s.Sound
  results : ∀ t r, m.results.get? t = some r → r.task.ticket = t ∧
    ∃ s, m.tickets.get? t = some s ∧ s.status = .scheduled ∧ s.model = some r.key.model
  busy : ∀ model, m.slots.busy model = (m.holders model).length

namespace Accounted

variable {m m' : Manager} (h : m.Accounted)
include h

theorem mem_holders {model : String} {t : Ticket} : t ∈ m.holders model ↔
    ∃ s, m.tickets.get? t = some s ∧ s.status = .scheduled ∧ s.model = some model := by
  rw [Manager.mem_holders]
  refine exists_congr fun s => and_congr_right fun hs => ?_
  rw [(h.states t s hs).holds]

theorem result_none {t : Ticket} (hs : m.status? t ≠ some .scheduled) :
    m.results.get? t = none := by
  cases hr : m.results.get? t with
  | none => rfl
  | some r =>
    obtain ⟨_, s, ht, hst, _⟩ := h.results t r hr
    exact absurd (by rw [status?, ht, Option.map_some, hst]) hs

theorem keep (states : ∀ t s, m'.tickets.get? t = some s → s.Sound)
    (scheduled : ∀ t s, s.status = .scheduled →
      (m'.tickets.get? t = some s ↔ m.tickets.get? t = some s))
    (results : ∀ t r, m'.results.get? t = some r → m.results.get? t = some r)
    (busy : ∀ model, m'.slots.busy model = m.slots.busy model) : m'.Accounted where
  states := states
  results := by
    intro t r hr
    obtain ⟨ht, s, hs, hst, hm⟩ := h.results t r (results t r hr)
    exact ⟨ht, s, (scheduled t s hst).mpr hs, hst, hm⟩
  busy := by
    intro model
    rw [busy, h.busy]
    refine (length_holders_congr fun t => ?_).symm
    rw [h.mem_holders, Manager.mem_holders]
    constructor
    · rintro ⟨s, hs, hh, hm⟩
      have hst := (states t s hs).holds.mp hh
      exact ⟨s, (scheduled t s hst).mp hs, hst, hm⟩
    · rintro ⟨s, hs, hst, hm⟩
      exact ⟨s, (scheduled t s hst).mpr hs, (h.states t s hs).holds.mpr hst, hm⟩

end Accounted

theorem scheduled_iff_of_status {m m' : Manager} {t : Ticket} {s : TicketState}
    (h : m.status? t ≠ some .scheduled) (h' : m'.status? t ≠ some .scheduled)
    (hst : s.status = .scheduled) : m'.tickets.get? t = some s ↔ m.tickets.get? t = some s := by
  constructor
  · intro hs
    exact absurd (by rw [status?, hs, Option.map_some, hst]) h'
  · intro hs
    exact absurd (by rw [status?, hs, Option.map_some, hst]) h

/-- What holds of a manager between its calls. -/
structure Sound (m : Manager) : Prop where
  known : ∀ t s, m.tickets.get? t = some s → t ≤ m.issued
  linked : m.Linked
  accounted : m.Accounted

theorem sound_empty : empty.Sound where
  known := by simp [empty]
  linked := {
    exact := Scheduler.exact_empty
    tasks := by simp [empty, Scheduler.empty, Queue.empty]
    keys := by simp [empty, Scheduler.empty, Queue.empty]
    waiting := by simp [empty, Scheduler.empty, Queue.empty]
    queued := by simp [waitingTask, empty] }
  accounted := {
    states := by simp [empty]
    results := by simp [empty]
    busy := fun _ => rfl }

end Manager

end InferenceDispatch
