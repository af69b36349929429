import InferenceDispatch.Proofs.Scheduler.Sharing
import Mathlib.Algebra.Order.Ring.Unbundled.Rat

namespace InferenceDispatch

namespace Scheduler

/-- A pass served the entry `e` rightly, and left `s'`: the entry is the next of a key that may be served,
under first come, first served of the earliest such key; and entries of its task left, it among them, while
all others stay as they were. -/
structure Served {α : Type} (strategy : Strategy α) (g : Gate) (w : WorkTable) (s : Scheduler) (e : Entry)
    (s' : Scheduler) : Prop where
  servable : g.Servable w s.queue e.key
  leads : s.queue.Leads e
  earliest : strategy = .firstCome → ∃ earlier later,
    s.queue.keys = earlier ++ e.key :: later ∧ ∀ key ∈ earlier, ¬g.Servable w s.queue key
  others : ∃ ids, e.id ∈ ids ∧ (∀ o ∈ s.queue.entries, o.id ∈ ids → o.task.id = e.task.id) ∧
    s.queue.Without ids s'.queue
  books : s'.waiting = s.waiting.erase e.task.id

section Pass

variable {α : Type} [OfScientific α] [Add α] [Sub α] [Mul α] [LE α] [LT α]
  [DecidableLE α] [DecidableLT α] {strategy : Strategy α}

theorem schedule_served {s : Scheduler} {now : Time} (h : s.Owned now) {g : Gate} {w : WorkTable}
    {e : Entry} (hc : strategy.choose g w s.queue = some e) :
    ∃ s', s.schedule strategy g w now =
        some (⟨e.task, e.id, e.key, e.tier, e.waited now⟩, s') ∧ Served strategy g w s e s' ∧
      (s.Whole → ∀ o ∈ s'.queue.entries, o.task.id ≠ e.task.id) := by
  have filed := h.timely.filed
  obtain ⟨hleads, hservable⟩ := (Strategy.mem_heads_iff filed).mp (Strategy.choose_mem hc)
  obtain ⟨queue, hs, hq⟩ := schedule_of_choose filed hc now
  refine ⟨_, hs, ⟨hservable, hleads, ?_, ⟨_, List.mem_cons_self, ?_, hq⟩, rfl⟩, ?_⟩
  · rintro rfl
    exact Strategy.choose_firstCome filed hc
  · intro o ho hid
    rcases List.mem_cons.mp hid with hid | hid
    · rw [filed.eq_of_id_eq ho hleads.waiting hid]
    · exact h.own e.task.id o ho (List.mem_of_mem_filter hid)
  · intro whole o ho ht
    have hleft := hq.not_mem ho
    have hold : o ∈ s.queue.entries := by
      rw [hq.entries] at ho
      exact List.mem_of_mem_filter ho
    have hne : o.id ≠ e.id := fun hid => hleft (hid ▸ List.mem_cons_self)
    rcases whole o hold with hbooked | honly
    · rw [ht] at hbooked
      exact hleft (List.mem_cons_of_mem _ (List.mem_filter.mpr ⟨hbooked, by simpa using hne⟩))
    · exact hne (honly e hleads.waiting ht.symm ▸ rfl)

/-- After any run a pass changes nothing and goes empty-handed exactly if no key may be served, and
otherwise it serves an entry rightly. As long as no entry was moved into the tier it was in, that entry came
before all others of its key and tier; and if no task was let in twice, no entry of its task is left. -/
theorem passes_conserve_work {start : Time}
    {turns : List (Turn (Clocked Scheduler) SharedCall (Answer ⊕ Queue.Answer))} {s : Clocked Scheduler}
    (run : Run (SharedCall.perform strategy) ⟨start, empty⟩ turns s) (g : Gate) (w : WorkTable) :
    ((Call.schedule g w).perform strategy s = .ok (.answerOnly s (.picked none)) ↔
      ∀ key, ¬g.Servable w s.state.queue key) ∧
    ((∃ key, g.Servable w s.state.queue key) → ∃ e s',
      (Call.schedule g w).perform strategy s = .ok (.answerOnly ⟨s.now, s'⟩
        (.picked (some ⟨e.task, e.id, e.key, e.tier, e.waited s.now⟩))) ∧
      Served strategy g w s.state e s' ∧
      ((∀ turn ∈ turns, turn.call.MovesElsewhere turn.before.state.queue) →
        ∀ o ∈ s.state.queue.entries, o.key = e.key → o.tier = e.tier → o ≠ e → e.before o) ∧
      ((letIn turns).Nodup → ∀ o ∈ s'.queue.entries, o.task.id ≠ e.task.id)) := by
  have owned := owned_of_run run
  have filed := owned.timely.filed
  have nothing := (Strategy.choose_eq_none_iff (s := strategy)).trans
    (Strategy.heads_eq_nil_iff (g := g) (w := w) filed)
  cases hc : strategy.choose g w s.state.queue with
  | none =>
    have none_servable := nothing.mp hc
    have hs : s.state.schedule strategy g w s.now = none := by rw [schedule, hc]; rfl
    have idle : (Call.schedule g w).perform strategy s = .ok (.answerOnly s (.picked none)) := by
      simp only [Call.perform, hs]
    exact ⟨⟨fun _ => none_servable, fun _ => idle⟩, fun some_servable =>
      absurd some_servable (not_exists.mpr none_servable)⟩
  | some e =>
    obtain ⟨s', hs, served, gone⟩ := schedule_served owned hc
    have busy : (Call.schedule g w).perform strategy s = .ok (.answerOnly ⟨s.now, s'⟩
        (.picked (some ⟨e.task, e.id, e.key, e.tier, e.waited s.now⟩))) := by
      simp only [Call.perform, hs]
    refine ⟨iff_of_false (by simp [busy, Effect.answerOnly]) ?_, fun _ => ⟨e, s', busy, served, ?_, ?_⟩⟩
    · exact fun hnone => hnone e.key served.servable
    · intro elsewhere o ho
      exact (orderly_of_run run elsewhere).before_of_leads served.leads ho
    · exact fun once => gone (whole_of_run run once)

end Pass

/-- With a slot for the model of the second key a pass serves this key, and without slots none. -/
theorem second_key_is_served : ∃ turns s,
    Run (SharedCall.perform (.scored .standard : Strategy ℚ)) ⟨0, empty⟩ turns s ∧
    s.state.queue.keys = [⟨"m", "p"⟩, ⟨"n", "q"⟩] ∧
    (∃ (e : Entry) (s' : Scheduler), (Call.schedule .unguarded (Table.empty.insert "n" 1)).perform
        (.scored .standard : Strategy ℚ) s = .ok (.answerOnly ⟨s.now, s'⟩
          (.picked (some ⟨e.task, e.id, e.key, e.tier, e.waited s.now⟩))) ∧
      e.key = ⟨"n", "q"⟩ ∧ ∀ o ∈ s'.queue.entries, o.task.id ≠ e.task.id) ∧
    (Call.schedule .unguarded Table.empty).perform (.scored .standard : Strategy ℚ) s =
      .ok (.answerOnly s (.picked none)) := by
  let both : Task := ⟨1, 1, "", [⟨"m", "p", 1, .normal⟩, ⟨"n", "q", 1, .normal⟩]⟩
  let slots : WorkTable := Table.empty.insert "n" 1
  have played : ((play (SharedCall.perform (.scored .standard : Strategy ℚ))
      [.own (.enqueue both), .direct (.enqueue ⟨2, 2, "", []⟩ ⟨"n", "q"⟩ .high)]
      ⟨0, empty⟩).toOption.map fun r => decide (r.2.state.queue.keys = [⟨"m", "p"⟩, ⟨"n", "q"⟩] ∧
        (letIn r.1).Nodup ∧ (∃ e ∈ r.2.state.queue.entries, e.key = ⟨"n", "q"⟩) ∧
        ∀ e ∈ r.2.state.queue.entries, 0 < slots.available e.key.model → e.key = ⟨"n", "q"⟩)) =
      some true := by
    decide +kernel
  obtain ⟨turns, s, run, hview⟩ := Run.exists_of_play played
  obtain ⟨hkeys, once, waits, only⟩ := of_decide_eq_true hview
  refine ⟨turns, s, run, hkeys, ?_, ?_⟩
  · obtain ⟨e, s', hc, served, _, gone⟩ := (passes_conserve_work run .unguarded slots).2
      ⟨⟨"n", "q"⟩, waits, by decide, rfl⟩
    exact ⟨e, s', hc, only e served.leads.waiting served.servable.2.1, gone once⟩
  · refine (passes_conserve_work run .unguarded Table.empty).1.mpr ?_
    rintro key ⟨_, hslot, _⟩
    exact absurd hslot (Nat.lt_irrefl 0)

end Scheduler

end InferenceDispatch
