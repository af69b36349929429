import InferenceDispatch.Proofs.Scheduler.Scores

namespace InferenceDispatch

section Shortfall

variable (weights : Scoring ℚ) (g : Gate) (w : WorkTable) (q : Queue)

def Near (a b : Entry) : Prop :=
  |weights.scoreOf g w q a - weights.scoreOf g w q b| ≤ scoreTolerance

/-- Among the entries that contend, two that are near a third one are near each other. -/
def NearTransitive : Prop := ∀ a b c, Contends g w q a → Contends g w q b → Contends g w q c →
  Near weights g w q a b → Near weights g w q b c → Near weights g w q a c

def Within (bound : ℚ) (l : List Entry) (best : Entry) : Prop :=
  ∀ o ∈ l, weights.scoreOf g w q o ≤ weights.scoreOf g w q best + bound

/-- The head named is one of the list, and falls short by one tolerance less than there are heads. -/
def ShortAmong (l : List Entry) (best : Entry) : Prop :=
  best ∈ l ∧ Within weights g w q ((l.length - 1) * scoreTolerance) l best

/-- If all the heads contend, the one named is one of them and falls short by one tolerance. -/
def NearlyBest (l : List Entry) (best : Entry) : Prop :=
  (∀ e ∈ l, Contends g w q e) → best ∈ l ∧ Within weights g w q scoreTolerance l best

variable {weights g w q} {l : List Entry} {best e : Entry}

theorem Within.append {bound bound' : ℚ} (hl : Within weights g w q bound l best)
    (hle : bound ≤ bound') (he : weights.scoreOf g w q e ≤ weights.scoreOf g w q best + bound') :
    Within weights g w q bound' (l ++ [e]) best := by
  intro o ho
  rcases List.mem_append.mp ho with ho | ho
  · have := hl o ho
    linarith
  · exact List.mem_singleton.mp ho ▸ he

theorem le_of_stays
    (hd : displaces (weights.scoreOf g w q e, e) (weights.scoreOf g w q best, best) = false) :
    weights.scoreOf g w q e ≤ weights.scoreOf g w q best + scoreTolerance := by
  by_contra hlt
  have hdisplaces := (displaces_iff (a := (weights.scoreOf g w q e, e))
    (b := (weights.scoreOf g w q best, best))).mpr (Or.inl (lt_of_not_ge hlt))
  rw [hd] at hdisplaces
  cases hdisplaces

theorem better_or_near
    (hd : displaces (weights.scoreOf g w q e, e) (weights.scoreOf g w q best, best) = true) :
    weights.scoreOf g w q best + scoreTolerance < weights.scoreOf g w q e ∨ Near weights g w q e best :=
  (displaces_iff.mp hd).imp_right And.left

theorem le_of_yields
    (hd : displaces (weights.scoreOf g w q e, e) (weights.scoreOf g w q best, best) = true) :
    weights.scoreOf g w q best ≤ weights.scoreOf g w q e + scoreTolerance := by
  have := scoreTolerance_pos
  rcases better_or_near hd with hlt | hnear
  · linarith
  · have := (abs_le.mp hnear).1
    linarith

theorem bound_append (h : best ∈ l) (e : Entry) :
    (0 : ℚ) ≤ (l.length - 1) * scoreTolerance ∧
      (((l ++ [e]).length : ℚ) - 1) * scoreTolerance =
        (l.length - 1) * scoreTolerance + scoreTolerance := by
  have hpos : (1 : ℚ) ≤ l.length := by exact_mod_cast List.length_pos_of_mem h
  constructor
  · exact mul_nonneg (by linarith) scoreTolerance_pos.le
  · rw [List.length_append, List.length_singleton]
    push_cast
    ring

theorem ShortAmong.stays (hl : ShortAmong weights g w q l best)
    (hd : displaces (weights.scoreOf g w q e, e) (weights.scoreOf g w q best, best) = false) :
    ShortAmong weights g w q (l ++ [e]) best := by
  obtain ⟨hmem, hall⟩ := hl
  obtain ⟨hpos, hnext⟩ := bound_append hmem e
  have htol := scoreTolerance_pos
  have hle := le_of_stays hd
  refine ⟨List.mem_append_left _ hmem, ?_⟩
  rw [hnext]
  exact hall.append (by linarith) (by linarith)

theorem ShortAmong.yields (hl : ShortAmong weights g w q l best)
    (hd : displaces (weights.scoreOf g w q e, e) (weights.scoreOf g w q best, best) = true) :
    ShortAmong weights g w q (l ++ [e]) e := by
  obtain ⟨hmem, hall⟩ := hl
  obtain ⟨hpos, hnext⟩ := bound_append hmem e
  have htol := scoreTolerance_pos
  have hle := le_of_yields hd
  have hshift : Within weights g w q ((l.length - 1) * scoreTolerance + scoreTolerance) l e := by
    intro o ho
    have := hall o ho
    linarith
  refine ⟨List.mem_concat_self, ?_⟩
  rw [hnext]
  exact hshift.append le_rfl (by linarith)

theorem NearlyBest.stays (hl : NearlyBest weights g w q l best)
    (hd : displaces (weights.scoreOf g w q e, e) (weights.scoreOf g w q best, best) = false) :
    NearlyBest weights g w q (l ++ [e]) best := by
  intro contend
  obtain ⟨hmem, hall⟩ := hl (List.forall_mem_append.mp contend).1
  exact ⟨List.mem_append_left _ hmem, hall.append le_rfl (le_of_stays hd)⟩

theorem NearlyBest.yields (trans : NearTransitive weights g w q) (hl : NearlyBest weights g w q l best)
    (hd : displaces (weights.scoreOf g w q e, e) (weights.scoreOf g w q best, best) = true) :
    NearlyBest weights g w q (l ++ [e]) e := by
  intro contend
  obtain ⟨hcl, hce⟩ := List.forall_mem_append.mp contend
  obtain ⟨hmem, hall⟩ := hl hcl
  have htol := scoreTolerance_pos
  have hshift : Within weights g w q scoreTolerance l e := by
    intro o ho
    have hle := hall o ho
    rcases better_or_near hd with hlt | hnear
    · linarith
    · -- an entry that is worse than the old best one by more than the tolerance is worse than the new one
      by_cases hlow : weights.scoreOf g w q o < weights.scoreOf g w q best - scoreTolerance
      · have := (abs_le.mp hnear).1
        linarith
      · have hnear' : Near weights g w q o best := abs_le.mpr ⟨by linarith, by linarith⟩
        have hboth := trans o best e (hcl o ho) (hcl best hmem) (hce e List.mem_cons_self) hnear'
          (by rwa [Near, abs_sub_comm])
        have := (abs_le.mp hboth).2
        linarith
  exact ⟨List.mem_concat_self, hshift.append le_rfl (by linarith)⟩

end Shortfall

namespace Scheduler

/-- After any run, if a key may be served, the pass takes a head whose score falls short of every other by
one tolerance less than there are heads, at most; and by one tolerance at most if nearness is transitive. -/
theorem scheduled_shortfall {strategy : Strategy ℚ} {start : Time}
    {turns : List (Turn (Clocked Scheduler) SharedCall (Answer ⊕ Queue.Answer))} {s : Clocked Scheduler}
    (run : Run (SharedCall.perform strategy) ⟨start, empty⟩ turns s) (weights : Scoring ℚ) (g : Gate)
    (w : WorkTable) (key : QueueKey) (hkey : g.Servable w s.state.queue key) :
    ∃ e s', s.state.schedule (.scored weights) g w s.now =
        some (⟨e.task, e.id, e.key, e.tier, e.waited s.now⟩, s') ∧ Contends g w s.state.queue e ∧
      (∀ o, Contends g w s.state.queue o → weights.scoreOf g w s.state.queue o ≤
        weights.scoreOf g w s.state.queue e +
          ((Strategy.heads g w s.state.queue).length - 1) * scoreTolerance) ∧
      (NearTransitive weights g w s.state.queue → ∀ o, Contends g w s.state.queue o →
        weights.scoreOf g w s.state.queue o ≤ weights.scoreOf g w s.state.queue e + scoreTolerance) := by
  have filed := (owned_of_run run).timely.filed
  have mem : ∀ {e}, e ∈ Strategy.heads g w s.state.queue ↔ Contends g w s.state.queue e :=
    Strategy.mem_heads_iff filed
  obtain ⟨e, hc⟩ := (Strategy.scored weights).choose_of_servable filed hkey
  obtain ⟨queue, hs, _⟩ := schedule_of_choose filed hc s.now
  rw [choose_scored filed] at hc
  obtain ⟨best, hbest, rfl⟩ := Option.map_eq_some_iff.mp hc
  obtain ⟨e, rfl, hmem, hshort⟩ := best_induction (P := ShortAmong weights g w s.state.queue)
    (fun _ => ⟨List.mem_cons_self, by simp [Within]⟩) (fun _ _ _ => ShortAmong.stays)
    (fun _ _ _ => ShortAmong.yields) hbest
  refine ⟨e, _, hs, mem.mp hmem, fun o ho => hshort o (mem.mpr ho), fun trans o ho => ?_⟩
  obtain ⟨e', he', hnear⟩ := best_induction (P := NearlyBest weights g w s.state.queue)
    (fun _ _ => ⟨List.mem_cons_self, by simp [Within, scoreTolerance_pos.le]⟩)
    (fun _ _ _ => NearlyBest.stays) (fun _ _ _ => NearlyBest.yields trans) hbest
  obtain rfl := (Prod.mk.inj he').2
  exact (hnear fun e he => mem.mp he).2 o (mem.mpr ho)

/-- Weights that count nothing but free slots, each a little less than the tolerance. -/
def slotsOnly : Scoring ℚ := ⟨0, 0, 9e-10, 0⟩

/-- Of two heads that are near each other the worse is taken if it came first. -/
theorem worse_of_two_is_near : ∃ turns s,
    Run (SharedCall.perform (.scored slotsOnly)) ⟨0, empty⟩ turns s ∧
    ∃ w : WorkTable, ∃ e o : Entry,
      (s.state.schedule (.scored slotsOnly) .unguarded w s.now).map (fun x => x.1.entry) = some e.id ∧
      Contends .unguarded w s.state.queue e ∧ Contends .unguarded w s.state.queue o ∧
      slotsOnly.scoreOf .unguarded w s.state.queue e < slotsOnly.scoreOf .unguarded w s.state.queue o ∧
      slotsOnly.scoreOf .unguarded w s.state.queue o ≤
        slotsOnly.scoreOf .unguarded w s.state.queue e + scoreTolerance := by
  let slots : WorkTable := (Table.empty.insert "a" 2).insert "b" 1
  have played : ((play (SharedCall.perform (.scored slotsOnly))
      [.own (.enqueue ⟨1, 1, "", [⟨"b", "p", 1, .normal⟩]⟩),
        .own (.enqueue ⟨2, 2, "", [⟨"a", "p", 1, .normal⟩]⟩)] ⟨0, empty⟩).toOption.map fun r =>
        ((Strategy.heads .unguarded slots r.2.state.queue).map fun e =>
          (e.id, slotsOnly.scoreOf .unguarded slots r.2.state.queue e),
        (r.2.state.schedule (.scored slotsOnly) .unguarded slots r.2.now).map
          fun x => x.1.entry)) = some ([(1, 9e-10), (2, 18e-10)], some 1) := by
    decide +kernel
  obtain ⟨turns, s, run, hview⟩ := Run.exists_of_play played
  obtain ⟨hheads, hwon⟩ := Prod.mk.inj hview
  have mem : ∀ {e}, e ∈ Strategy.heads .unguarded slots s.state.queue ↔
      Contends .unguarded slots s.state.queue e :=
    Strategy.mem_heads_iff (owned_of_run run).timely.filed
  have htwo : (2, (18e-10 : ℚ)) ∈ [(1, (9e-10 : ℚ)), (2, 18e-10)] := by simp
  rw [← hheads] at htwo
  obtain ⟨o, ho, hpair⟩ := List.mem_map.mp htwo
  obtain ⟨e, s', hs, he, hshort, _⟩ := scheduled_shortfall run slotsOnly .unguarded slots o.key
    (mem.mp ho).2
  have taken := (congrArg (Option.map fun x => x.1.entry) hs).symm.trans hwon
  have hid : e.id = 1 := Option.some.inj taken
  have hone := List.mem_map_of_mem (f := fun e =>
    (e.id, slotsOnly.scoreOf .unguarded slots s.state.queue e)) (mem.mpr he)
  rw [hheads, hid] at hone
  have hlow : slotsOnly.scoreOf .unguarded slots s.state.queue e = 9e-10 := by simpa using hone
  have hlen : (Strategy.heads .unguarded slots s.state.queue).length = 2 := by
    simpa using congrArg List.length hheads
  refine ⟨turns, s, run, slots, e, o, hid ▸ hwon, he, mem.mp ho, ?_, ?_⟩
  · rw [hlow, (Prod.mk.inj hpair).2]
    norm_num
  · have hle := hshort o (mem.mp ho)
    rw [hlen] at hle
    norm_num at hle
    exact hle

/-- Three heads, each near the next: the worst of them came first and is taken, and falls short of the best
by more than the tolerance. -/
theorem near_ties_add_up : ∃ turns s,
    Run (SharedCall.perform (.scored slotsOnly)) ⟨0, empty⟩ turns s ∧
    ∃ w : WorkTable, ∃ e o : Entry,
      (s.state.schedule (.scored slotsOnly) .unguarded w s.now).map
        (fun x => x.1.entry) = some e.id ∧
      Contends .unguarded w s.state.queue e ∧ Contends .unguarded w s.state.queue o ∧
      slotsOnly.scoreOf .unguarded w s.state.queue e + scoreTolerance <
        slotsOnly.scoreOf .unguarded w s.state.queue o := by
  let slots : WorkTable := ((Table.empty.insert "a" 3).insert "b" 2).insert "c" 1
  have played : ((play (SharedCall.perform (.scored slotsOnly))
      [.own (.enqueue ⟨1, 1, "", [⟨"a", "p", 1, .normal⟩]⟩),
        .own (.enqueue ⟨2, 2, "", [⟨"b", "p", 1, .normal⟩]⟩),
        .own (.enqueue ⟨3, 3, "", [⟨"c", "p", 1, .normal⟩]⟩),
        .own (.enqueue ⟨4, 4, "", [⟨"b", "p", 1, .normal⟩]⟩),
        .own (.enqueue ⟨5, 5, "", [⟨"a", "p", 1, .normal⟩]⟩), .own (.cancel 1), .own (.cancel 2)]
      ⟨0, empty⟩).toOption.map fun r =>
        ((Strategy.heads .unguarded slots r.2.state.queue).map fun e =>
          (e.id, slotsOnly.scoreOf .unguarded slots r.2.state.queue e),
        (r.2.state.schedule (.scored slotsOnly) .unguarded slots r.2.now).map
          fun x => x.1.entry)) = some ([(5, 27e-10), (4, 18e-10), (3, 9e-10)], some 3) := by
    decide +kernel
  obtain ⟨turns, s, run, hview⟩ := Run.exists_of_play played
  obtain ⟨hheads, hwon⟩ := Prod.mk.inj hview
  have filed := (owned_of_run run).timely.filed
  have head : ∀ id score, (id, score) ∈ [(5, (27e-10 : ℚ)), (4, 18e-10), (3, 9e-10)] →
      ∃ e, Contends .unguarded slots s.state.queue e ∧ e.id = id ∧
        slotsOnly.scoreOf .unguarded slots s.state.queue e = score := by
    intro id score hm
    rw [← hheads] at hm
    obtain ⟨e, he, heq⟩ := List.mem_map.mp hm
    obtain ⟨hid, hscore⟩ := Prod.mk.inj heq
    exact ⟨e, (Strategy.mem_heads_iff filed).mp he, hid, hscore⟩
  obtain ⟨e, he, hid, hlow⟩ := head 3 9e-10 (by simp)
  obtain ⟨o, ho, _, hhigh⟩ := head 5 27e-10 (by simp)
  refine ⟨turns, s, run, slots, e, o, hid ▸ hwon, he, ho, ?_⟩
  rw [hlow, hhigh, scoreTolerance_rat]
  norm_num

end Scheduler

end InferenceDispatch
