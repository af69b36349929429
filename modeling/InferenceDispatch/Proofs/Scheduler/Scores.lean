import InferenceDispatch.Proofs.Queue.Refinement
import InferenceDispatch.Proofs.Scheduler.Sharing
import Mathlib.Algebra.Order.Field.Basic
import Mathlib.Algebra.Order.Field.Rat
import Mathlib.Data.Rat.Cast.OfScientific
import Mathlib.Tactic.Linarith
import Mathlib.Tactic.NormNum
import Mathlib.Tactic.Ring

namespace InferenceDispatch

theorem scoreTolerance_rat : (scoreTolerance : ℚ) = 1 / 1000000000 := by
  norm_num [scoreTolerance]

theorem scoreTolerance_pos : (0 : ℚ) < scoreTolerance := by norm_num [scoreTolerance_rat]

theorem ofCount_rat (n : Nat) : (ofCount n : ℚ) = n := by
  unfold ofCount
  rw [NNRatCast.toOfScientific_def]
  change Rat.ofScientific n false 0 = n
  simp [Rat.ofScientific]

/-- The score of an entry: the weighted value of its tier, less the weighted number of entries that wait
for its model, at whatever provider, and with the weighted number of free slots on top; less the penalty if
the model is cold. -/
def Scoring.scoreOf (weights : Scoring ℚ) (g : Gate) (w : WorkTable) (q : Queue) (e : Entry) : ℚ :=
  weights.priorityWeight * e.tier.value
    - weights.depthWeight * q.entries.countP (fun o => o.key.model = e.key.model)
    + weights.slotWeight * w.available e.key.model
    - if g.isCold e.key then weights.coldStartPenalty else 0

theorem Scoring.ofEntry_eq {q : Queue} (filed : q.Filed) (weights : Scoring ℚ) (g : Gate)
    (w : WorkTable) (e : Entry) :
    weights.ofEntry g q e (w.available e.key.model) = weights.scoreOf g w q e := by
  unfold ofEntry score scoreOf
  rw [filed.modelDepth_plain]
  simp only [ofCount_rat]
  split <;> simp

theorem displaces_iff {a b : ℚ × Entry} : displaces a b = true ↔
    b.1 + scoreTolerance < a.1 ∨ |a.1 - b.1| ≤ scoreTolerance ∧ a.2.before b.2 = true := by
  simp only [displaces, Bool.or_eq_true, Bool.and_eq_true, decide_eq_true_eq, abs_le, neg_le, neg_sub,
    and_comm]

section Ranking

variable (weights : Scoring ℚ) (g : Gate) (w : WorkTable) (q : Queue)

def Outranks (a b : Entry) : Prop :=
  weights.scoreOf g w q b < weights.scoreOf g w q a ∨
    weights.scoreOf g w q a = weights.scoreOf g w q b ∧ a.before b = true

/-- The entry outranks all others that contend. -/
structure Wins (e : Entry) : Prop where
  contends : Contends g w q e
  outranks : ∀ o, Contends g w q o → o ≠ e → Outranks weights g w q e o

/-- If all the heads contend, the one named is one of them and outranks the others. -/
def FirstAmong (l : List Entry) (best : Entry) : Prop := (∀ e ∈ l, Contends g w q e) →
  best ∈ l ∧ ∀ o ∈ l, o = best ∨ Outranks weights g w q best o

/-- No two entries that contend are told apart by as little as the tolerance. -/
def Apart : Prop := ∀ a b, Contends g w q a → Contends g w q b →
  weights.scoreOf g w q a = weights.scoreOf g w q b ∨
    scoreTolerance < |weights.scoreOf g w q a - weights.scoreOf g w q b|

theorem standard_tenths (e : Entry) :
    ∃ n : ℤ, Scoring.scoreOf (.standard : Scoring ℚ) g w q e = n / 10 := by
  refine ⟨100 * e.tier.value - q.entries.countP (fun o => o.key.model = e.key.model) +
    10 * w.available e.key.model - if g.isCold e.key then 50 else 0, ?_⟩
  unfold Scoring.scoreOf Scoring.standard
  split <;> norm_num <;> ring

theorem standard_apart : Apart .standard g w q := by
  intro a b _ _
  obtain ⟨n, hn⟩ := standard_tenths g w q a
  obtain ⟨m, hm⟩ := standard_tenths g w q b
  rw [hn, hm, scoreTolerance_rat, ← sub_div, abs_div]
  by_cases heq : n = m
  · exact Or.inl (by rw [heq])
  · have hone : (1 : ℚ) ≤ |(n : ℚ) - m| := by
      exact_mod_cast Int.one_le_abs (sub_ne_zero.mpr heq)
    refine Or.inr ?_
    norm_num
    linarith

end Ranking

section Best

variable {weights : Scoring ℚ} {g : Gate} {w : WorkTable} {q : Queue} {now : Time}

theorem Outranks.trans (h : q.Timely now) {a b c : Entry} (ha : a ∈ q.entries) (hb : b ∈ q.entries)
    (hc : c ∈ q.entries) (hab : Outranks weights g w q a b) (hbc : Outranks weights g w q b c) :
    Outranks weights g w q a c := by
  unfold Outranks at *
  rw [h.before_iff ha hb] at hab
  rw [h.before_iff hb hc] at hbc
  rw [h.before_iff ha hc]
  rcases hab with hab | ⟨hab, hlt⟩ <;> rcases hbc with hbc | ⟨hbc, hlt'⟩
  · exact Or.inl (lt_trans hbc hab)
  · exact Or.inl (hbc ▸ hab)
  · exact Or.inl (hab ▸ hbc)
  · exact Or.inr ⟨hab.trans hbc, Nat.lt_trans hlt hlt'⟩

theorem Outranks.total (h : q.Timely now) {a b : Entry} (ha : a ∈ q.entries) (hb : b ∈ q.entries)
    (hne : a ≠ b) (hnot : ¬Outranks weights g w q a b) : Outranks weights g w q b a := by
  unfold Outranks at *
  rw [h.before_iff ha hb] at hnot
  rw [h.before_iff hb ha]
  rcases lt_trichotomy (weights.scoreOf g w q a) (weights.scoreOf g w q b) with hlt | heq | hgt
  · exact Or.inl hlt
  · refine Or.inr ⟨heq.symm, ?_⟩
    rcases Nat.lt_trichotomy a.id b.id with hid | hid | hid
    · exact absurd (Or.inr ⟨heq, hid⟩) hnot
    · exact absurd (h.filed.eq_of_id_eq ha hb hid) hne
    · exact hid
  · exact absurd (Or.inl hgt) hnot

theorem Outranks.asymm (h : q.Timely now) {a b : Entry} (ha : a ∈ q.entries) (hb : b ∈ q.entries)
    (hab : Outranks weights g w q a b) : ¬Outranks weights g w q b a := by
  unfold Outranks at *
  rw [h.before_iff ha hb] at hab
  rw [h.before_iff hb ha]
  rintro (hba | ⟨heq, hba⟩) <;> rcases hab with hab | ⟨heq', hab⟩
  · exact lt_asymm hab hba
  · exact hba.ne heq'
  · exact hab.ne heq
  · exact Nat.lt_asymm hab hba

theorem displaces_iff_outranks (apart : Apart weights g w q) {a b : Entry}
    (ha : Contends g w q a) (hb : Contends g w q b) :
    displaces (weights.scoreOf g w q a, a) (weights.scoreOf g w q b, b) = true ↔
      Outranks weights g w q a b := by
  have htol := scoreTolerance_pos
  rw [displaces_iff, Outranks]
  rcases apart a b ha hb with heq | hgap
  · simp [heq, htol.le, htol.not_gt]
  · have hne : weights.scoreOf g w q a ≠ weights.scoreOf g w q b := by
      intro heq
      rw [heq, sub_self, abs_zero] at hgap
      exact lt_asymm hgap htol
    simp only [not_le.mpr hgap, hne, false_and, or_false]
    constructor
    · intro hlt
      linarith
    · intro hlt
      rw [abs_of_pos (sub_pos.mpr hlt)] at hgap
      linarith

theorem choose_scored (filed : q.Filed) :
    (Strategy.scored weights).choose g w q = (((Strategy.heads g w q).map fun e =>
      (weights.scoreOf g w q e, e)).foldl better none).map Prod.snd := by
  simp only [Strategy.choose, weights.ofEntry_eq filed]

theorem FirstAmong.stays (h : q.Timely now) (apart : Apart weights g w q) {l : List Entry} {best e : Entry}
    (hl : FirstAmong weights g w q l best)
    (hd : displaces (weights.scoreOf g w q e, e) (weights.scoreOf g w q best, best) = false) :
    FirstAmong weights g w q (l ++ [e]) best := by
  intro contend
  obtain ⟨hcl, hce⟩ := List.forall_mem_append.mp contend
  obtain ⟨hmem, hall⟩ := hl hcl
  have hbest := hcl best hmem
  have he := hce e List.mem_cons_self
  refine ⟨List.mem_append_left _ hmem, List.forall_mem_append.mpr ⟨hall, fun o ho => ?_⟩⟩
  obtain rfl := List.mem_singleton.mp ho
  have hnot : ¬Outranks weights g w q o best :=
    mt (displaces_iff_outranks apart he hbest).mpr (by simp [hd])
  by_cases heq : o = best
  · exact Or.inl heq
  · exact Or.inr (Outranks.total h he.1.waiting hbest.1.waiting heq hnot)

theorem FirstAmong.yields (h : q.Timely now) (apart : Apart weights g w q) {l : List Entry} {best e : Entry}
    (hl : FirstAmong weights g w q l best)
    (hd : displaces (weights.scoreOf g w q e, e) (weights.scoreOf g w q best, best) = true) :
    FirstAmong weights g w q (l ++ [e]) e := by
  intro contend
  obtain ⟨hcl, hce⟩ := List.forall_mem_append.mp contend
  obtain ⟨hmem, hall⟩ := hl hcl
  have hbest := hcl best hmem
  have he := hce e List.mem_cons_self
  have hout := (displaces_iff_outranks apart he hbest).mp hd
  refine ⟨List.mem_concat_self, List.forall_mem_append.mpr ⟨fun o ho => Or.inr ?_, fun o ho => ?_⟩⟩
  · rcases hall o ho with rfl | hbetter
    · exact hout
    · exact hout.trans h he.1.waiting hbest.1.waiting (hcl o ho).1.waiting hbetter
  · exact Or.inl (List.mem_singleton.mp ho)

/-- With scores that are the same or well apart, an entry is chosen exactly if it wins. -/
theorem choose_eq_some_iff_wins (h : q.Timely now) (apart : Apart weights g w q) {e : Entry} :
    (Strategy.scored weights).choose g w q = some e ↔ Wins weights g w q e := by
  have wins : ∀ {e}, (Strategy.scored weights).choose g w q = some e → Wins weights g w q e := by
    intro e hc
    refine ⟨(Strategy.mem_heads_iff h.filed).mp (Strategy.choose_mem hc), fun o ho hne => ?_⟩
    rw [choose_scored h.filed] at hc
    obtain ⟨best, hbest, rfl⟩ := Option.map_eq_some_iff.mp hc
    obtain ⟨e, rfl, hall⟩ := best_induction (P := FirstAmong weights g w q)
      (fun _ _ => ⟨List.mem_cons_self, fun _ ho => Or.inl (List.mem_singleton.mp ho)⟩)
      (fun _ _ _ => FirstAmong.stays h apart) (fun _ _ _ => FirstAmong.yields h apart) hbest
    obtain ⟨_, hall⟩ := hall fun e he => (Strategy.mem_heads_iff h.filed).mp he
    exact (hall o ((Strategy.mem_heads_iff h.filed).mpr ho)).resolve_left hne
  refine ⟨wins, fun hw => ?_⟩
  cases hc : (Strategy.scored weights).choose g w q with
  | none =>
    have hm := (Strategy.mem_heads_iff h.filed).mpr hw.contends
    rw [Strategy.choose_eq_none_iff.mp hc] at hm
    exact absurd hm List.not_mem_nil
  | some o =>
    have ho := wins hc
    by_contra hne
    have heq : o ≠ e := fun heq => hne (congrArg some heq)
    exact Outranks.asymm h hw.contends.1.waiting ho.contends.1.waiting (hw.outranks o ho.contends heq)
      (ho.outranks e hw.contends heq.symm)

end Best

section Reordering

variable {q : Queue} {keys : List QueueKey} {lanes : Table QueueKey Lanes}

theorem Queue.lane_of_perm (perm : lanes.entries.Perm q.lanes.entries) (key : QueueKey)
    (tier : Priority) : lane { q with keys, lanes } key tier = q.lane key tier := by
  have hget : lanes.get? key = q.lanes.get? key := by
    refine Option.ext fun l => ?_
    rw [Table.get?_eq_some_iff, Table.get?_eq_some_iff, perm.mem_iff]
  simp only [Queue.lane, hget]

theorem Queue.Timely.of_perm {now : Time} (h : q.Timely now) (listed : keys.Perm q.keys)
    (perm : lanes.entries.Perm q.lanes.entries) : Timely { q with keys, lanes } now where
  filed :=
    { ascending := h.filed.ascending
      issued := h.filed.issued
      keys := (listed.trans h.filed.keys).trans (perm.map Prod.fst).symm
      nodup := fun key tier => lane_of_perm perm key tier ▸ h.filed.nodup key tier
      mem_lane := fun key tier id => lane_of_perm perm key tier ▸ h.filed.mem_lane key tier id }
  chronological := h.chronological
  past := h.past

theorem contends_of_perm (g : Gate) (w : WorkTable) (perm : lanes.entries.Perm q.lanes.entries)
    (e : Entry) : Contends g w { q with keys, lanes } e ↔ Contends g w q e := by
  have first : Queue.lane { q with keys, lanes } e.key e.tier = q.lane e.key e.tier :=
    Queue.lane_of_perm perm e.key e.tier
  constructor
  · rintro ⟨hleads, hservable⟩
    exact ⟨⟨hleads.waiting, first ▸ hleads.first, hleads.highest⟩, hservable⟩
  · rintro ⟨hleads, hservable⟩
    exact ⟨⟨hleads.waiting, first.symm ▸ hleads.first, hleads.highest⟩, hservable⟩

theorem wins_of_perm (weights : Scoring ℚ) (g : Gate) (w : WorkTable)
    (perm : lanes.entries.Perm q.lanes.entries) {e : Entry} (h : Wins weights g w q e) :
    Wins weights g w { q with keys, lanes } e :=
  ⟨(contends_of_perm g w perm e).mpr h.contends,
    fun o ho => h.outranks o ((contends_of_perm g w perm o).mp ho)⟩

theorem apart_of_perm (weights : Scoring ℚ) (g : Gate) (w : WorkTable)
    (perm : lanes.entries.Perm q.lanes.entries) (h : Apart weights g w q) :
    Apart weights g w { q with keys, lanes } :=
  fun a b ha hb => h a b ((contends_of_perm g w perm a).mp ha) ((contends_of_perm g w perm b).mp hb)

end Reordering

namespace Scheduler

def reordered (s : Scheduler) (keys : List QueueKey) (lanes : Table QueueKey Lanes) : Scheduler :=
  { s with queue := { s.queue with keys, lanes } }

/-- After any run, if no two heads are told apart by as little as the tolerance, as is always so with the
standard weights, and a key may be served, the pass takes the head that outranks all others; and so it does
with the keys in any other order. -/
theorem best_head_is_scheduled {strategy : Strategy ℚ} {start : Time}
    {turns : List (Turn (Clocked Scheduler) SharedCall (Answer ⊕ Queue.Answer))} {s : Clocked Scheduler}
    (run : Run (SharedCall.perform strategy) ⟨start, empty⟩ turns s) (weights : Scoring ℚ) (g : Gate)
    (w : WorkTable) :
    (weights = .standard → Apart weights g w s.state.queue) ∧
    (Apart weights g w s.state.queue → ∀ key, g.Servable w s.state.queue key →
      ∃ e s', s.state.schedule (.scored weights) g w s.now =
          some (⟨e.task, e.id, e.key, e.tier, e.waited s.now⟩, s') ∧
        Wins weights g w s.state.queue e ∧
        ∀ (keys : List QueueKey) (lanes : Table QueueKey Lanes), keys.Perm s.state.queue.keys →
          lanes.entries.Perm s.state.queue.lanes.entries →
          ∃ s'', (s.state.reordered keys lanes).schedule (.scored weights) g w s.now =
            some (⟨e.task, e.id, e.key, e.tier, e.waited s.now⟩, s'')) := by
  have timely := (owned_of_run run).timely
  refine ⟨fun hstandard => hstandard ▸ standard_apart g w s.state.queue, fun apart key hkey => ?_⟩
  obtain ⟨e, hc⟩ := (Strategy.scored weights).choose_of_servable timely.filed hkey
  have wins := (choose_eq_some_iff_wins timely apart).mp hc
  obtain ⟨queue, hs, _⟩ := schedule_of_choose timely.filed hc s.now
  refine ⟨e, _, hs, wins, fun keys lanes listed perm => ?_⟩
  have timely' := timely.of_perm listed perm
  have hc' := (choose_eq_some_iff_wins timely' (apart_of_perm weights g w perm apart)).mpr
    (wins_of_perm weights g w perm wins)
  obtain ⟨queue', hs', _⟩ := schedule_of_choose (s := s.state.reordered keys lanes) timely'.filed hc' s.now
  exact ⟨_, hs'⟩

/-- Two heads have the same score; the one that came first is taken, though its key stands behind. -/
theorem earlier_head_is_scheduled : ∃ turns s,
    Run (SharedCall.perform (.scored .standard : Strategy ℚ)) ⟨0, empty⟩ turns s ∧
    s.state.queue.keys = [⟨"n", "p"⟩, ⟨"m", "p"⟩] ∧
    ∃ e : Entry, e.id = 2 ∧ e.key = ⟨"m", "p"⟩ ∧
      Wins .standard .unguarded ((Table.empty.insert "m" 1).insert "n" 1) s.state.queue e := by
  let slots : WorkTable := (Table.empty.insert "m" 1).insert "n" 1
  have played : ((play (SharedCall.perform (.scored .standard : Strategy ℚ))
      [.own (.enqueue ⟨1, 1, "", [⟨"n", "p", 1, .normal⟩]⟩),
        .own (.enqueue ⟨2, 2, "", [⟨"m", "p", 1, .normal⟩]⟩),
        .own (.enqueue ⟨3, 3, "", [⟨"n", "p", 1, .normal⟩]⟩), .own (.cancel 1)]
      ⟨0, empty⟩).toOption.map fun r => decide (r.2.state.queue.keys = [⟨"n", "p"⟩, ⟨"m", "p"⟩] ∧
        (∃ e ∈ r.2.state.queue.entries, e.key = ⟨"m", "p"⟩) ∧
        (r.2.state.schedule (.scored .standard : Strategy ℚ) .unguarded slots r.2.now).map
          (fun x => (x.1.entry, x.1.key)) = some (2, ⟨"m", "p"⟩))) = some true := by
    decide +kernel
  obtain ⟨turns, s, run, hview⟩ := Run.exists_of_play played
  obtain ⟨hkeys, waits, hwon⟩ := of_decide_eq_true hview
  obtain ⟨standard, best⟩ := best_head_is_scheduled run .standard .unguarded slots
  obtain ⟨e, s', hs, wins, _⟩ := best (standard rfl) ⟨"m", "p"⟩ ⟨waits, by decide, rfl⟩
  have taken := (congrArg (Option.map fun x => (x.1.entry, x.1.key)) hs).symm.trans hwon
  obtain ⟨hid, hkey⟩ := Prod.mk.inj (Option.some.inj taken)
  exact ⟨turns, s, run, hkeys, e, hid, hkey, wins⟩

end Scheduler

end InferenceDispatch
