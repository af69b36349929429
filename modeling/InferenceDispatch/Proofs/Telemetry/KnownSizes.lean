import InferenceDispatch.Proofs.Telemetry.Residency

namespace InferenceDispatch

theorem exists_last_start {α : Type} {P : List α → Prop} {l start : List α} (h : start <+: l)
    (held : P start) : ∃ earlier later, l = earlier ++ later ∧ P earlier ∧
      ∀ next, next <+: later → next ≠ [] → ¬P (earlier ++ next) := by
  induction l using List.reverseRecOn with
  | nil =>
    obtain rfl := List.prefix_nil.mp h
    exact ⟨[], [], rfl, held, fun next hn ne => absurd (List.prefix_nil.mp hn) ne⟩
  | append_singleton l a ih =>
    by_cases last : P (l ++ [a])
    · exact ⟨l ++ [a], [], by simp, last, fun next hn ne => absurd (List.prefix_nil.mp hn) ne⟩
    · have shorter : start <+: l := by
        rcases List.prefix_concat_iff.mp h with rfl | h
        · exact absurd held last
        · exact h
      obtain ⟨earlier, later, rfl, here, after⟩ := ih shorter
      refine ⟨earlier, later ++ [a], by simp, here, fun next hn ne => ?_⟩
      rcases List.prefix_concat_iff.mp hn with rfl | hn
      · rwa [← List.append_assoc]
      · exact after next hn ne

namespace Ollama

def listings (o : Ollama) (rounds : List (Http.Network × Time)) : List (List ListedModel) :=
  rounds.filterMap fun r => (listingOf (Http.fetch r.1 o.listingUrl none)).toOption

/-- The listed model whose size is noted under `s`: the one that `s` is another name for, or else the one
that is listed under it. -/
def noted? (models : List ListedModel) (s : String) : Option ListedModel :=
  ((lastAliased models s).bind fun m => lastNamed models m.name).or (lastNamed models s)

def lastNoted? (listings : List (List ListedModel)) (s : String) : Option ListedModel :=
  (listings.filterMap fun models => noted? models s).getLast?

/-- The model that a name is remembered by. -/
def remembered? (listings : List (List ListedModel)) (q : String) : Option ListedModel :=
  (lastNoted? listings q).or (lastNoted? listings (q ++ ":latest"))

structure Unpolled (o : Ollama) : Prop where
  shows : Shows [] o
  unknown : ∀ s, o.lastVram.get? s = none

theorem unpolled_ofAddress (provider address : String) (settings : OllamaSettings) (showsQueue : Bool) :
    Unpolled (ofAddress provider address settings showsQueue) :=
  ⟨⟨fun _ => rfl, fun _ => rfl⟩, fun _ => rfl⟩

variable {models : List ListedModel} {o : Ollama} {rounds : List (Http.Network × Time)} {q s : String}

section Listings

theorem listings_append (o : Ollama) (earlier later : List (Http.Network × Time)) :
    o.listings (earlier ++ later) = o.listings earlier ++ o.listings later :=
  List.filterMap_append ..

theorem polled_concat (o : Ollama) (rounds : List (Http.Network × Time)) (r : Http.Network × Time) :
    o.polled (rounds ++ [r]) = ((o.polled rounds).refresh r.1 r.2).1 :=
  List.foldl_concat ..

theorem polled_concat_cases (o : Ollama) (rounds : List (Http.Network × Time))
    (r : Http.Network × Time) :
    (∃ models, o.listings [r] = [models] ∧
      o.polled (rounds ++ [r]) = (o.polled rounds).applyListing models r.2) ∨
    o.listings [r] = [] ∧
      o.polled (rounds ++ [r]) = { o.polled rounds with failures := (o.polled rounds).failures + 1 } := by
  have url := listingUrl_polled o rounds
  cases outcome : listingOf (Http.fetch r.1 o.listingUrl none) with
  | ok models =>
    refine Or.inl ⟨models, by simp [listings, outcome, Except.toOption], ?_⟩
    rw [← url] at outcome
    exact (polled_concat ..).trans (refresh_listed outcome r.2)
  | error reason =>
    refine Or.inr ⟨by simp [listings, outcome, Except.toOption], ?_⟩
    rw [← url] at outcome
    rw [polled_concat, refresh, outcome]

theorem Unpolled.shows_polled (h : Unpolled o) (rounds : List (Http.Network × Time)) :
    Shows ((o.listings rounds).getLast?.getD []) (o.polled rounds) := by
  induction rounds using List.reverseRecOn with
  | nil => exact h.shows
  | append_singleton rounds r ih =>
    rw [listings_append]
    rcases o.polled_concat_cases rounds r with ⟨models, listed, after⟩ | ⟨listed, after⟩
    · rw [listed, after, List.getLast?_concat]
      exact shows_applyListing ..
    · rw [listed, after, List.append_nil]
      exact ⟨ih.loaded, ih.aliases⟩

theorem Unpolled.isLoaded_iff (h : Unpolled o) (rounds : List (Http.Network × Time)) (queue : Queue)
    (q : String) : ((o.polled rounds).report queue q).isLoaded = true ↔
      ∃ models, (o.listings rounds).getLast? = some models ∧ (meant? models q).isSome := by
  rw [report, (h.shows_polled rounds).resident?, Option.isSome_map]
  cases (o.listings rounds).getLast? with
  | some models => simp
  | none => simp [meant?, listedAs?, lastNamed, lastAliased]

end Listings

section Sizes

theorem charge_of_named {m : ListedModel} (h : lastNamed models s = some m) :
    charge models s = m.vramBytes / 2 ^ 20 := by
  rw [charge, h]
  rfl

theorem lastVram_applyListing (o : Ollama) (models : List ListedModel) (now : Time) :
    let o' := o.applyListing models now
    o'.lastVram = o'.aliases.entries.foldl (fun t e => t.insert e.1 (charge models e.2))
      (o'.loaded.entries.foldl (fun t e => t.insert e.1 (charge models e.1)) o.lastVram) := by
  intro o'
  have h : Shows models o' := shows_applyListing o models now
  have sizes : (o'.loaded.entries.map fun e => (e.1, e.2.vramMb)) =
      o'.loaded.entries.map fun e => (e.1, charge models e.1) :=
    List.map_congr_left fun e he => by rw [h.charged e he]
  have resident : ∀ e ∈ o'.aliases.entries, ((o'.loaded.get? e.2).map fun m => (e.1, m.vramMb)) =
      some (e.1, charge models e.2) := by
    intro e he
    have leads := h.resident_of_alias (Table.get?_eq_some_iff.mpr he)
    obtain ⟨x, hx, hname⟩ := List.mem_map.mp leads
    have found : o'.loaded.get? e.2 = some x.2 := hname ▸ SortedMap.get?_eq_some_iff.mpr hx
    rw [found, Option.map_some, h.charged x hx, hname]
  have aliasSizes : (o'.aliases.entries.filterMap fun e => (o'.loaded.get? e.2).map fun m => (e.1, m.vramMb)) =
      o'.aliases.entries.map fun e => (e.1, charge models e.2) :=
    (List.filterMap_congr resident).trans (congrFun List.filterMap_eq_map _)
  calc o'.lastVram
      = ((o'.loaded.entries.map fun e => (e.1, e.2.vramMb)) ++
          o'.aliases.entries.filterMap fun e => (o'.loaded.get? e.2).map fun m => (e.1, m.vramMb)).foldl
            (fun t e => t.insert e.1 e.2) o.lastVram := rfl
    _ = _ := by rw [sizes, aliasSizes, List.foldl_append, List.foldl_map, List.foldl_map]

theorem Shows.charge_of_name (h : Shows models o) (s : String) :
    ((o.loaded.entries.find? fun e => e.1 = s).map fun e => charge models e.1) =
      (lastNamed models s).map fun m => m.vramBytes / 2 ^ 20 := by
  have named := h.loaded s
  rw [SortedMap.get?] at named
  cases hm : lastNamed models s with
  | none =>
    rw [hm, Option.map_none, Option.map_eq_none_iff] at named
    rw [named]
    rfl
  | some m =>
    rw [hm, Option.map_some] at named
    obtain ⟨e, he, _⟩ := Option.map_eq_some_iff.mp named
    have key : e.1 = s := by simpa using List.find?_some he
    rw [he, Option.map_some, key, charge_of_named hm, Option.map_some]

theorem Shows.charge_of_alias (h : Shows models o) (s : String) :
    ((o.aliases.entries.find? fun e => e.1 = s).map fun e => charge models e.2) =
      ((lastAliased models s).bind fun m => lastNamed models m.name).map fun m => m.vramBytes / 2 ^ 20 := by
  have aliased := h.aliases s
  rw [Table.get?] at aliased
  cases ha : lastAliased models s with
  | none =>
    rw [ha, Option.map_none, Option.map_eq_none_iff] at aliased
    rw [aliased]
    rfl
  | some m =>
    rw [ha, Option.map_some] at aliased
    obtain ⟨e, he, name⟩ := Option.map_eq_some_iff.mp aliased
    have listed : (lastNamed models m.name).isSome := lastNamed_isSome.mpr ⟨m, (lastAliased_mem ha).1, rfl⟩
    obtain ⟨m', hm'⟩ := Option.isSome_iff_exists.mp listed
    rw [he, Option.map_some, name, charge_of_named hm', Option.bind_some, hm', Option.map_some]

/-- A listing notes the size of the model that a name is another name for, even where another model has that
name. -/
theorem known_applyListing (o : Ollama) (models : List ListedModel) (now : Time) (s : String) :
    (o.applyListing models now).lastVram.get? s =
      ((noted? models s).map fun m => m.vramBytes / 2 ^ 20).or (o.lastVram.get? s) := by
  have h := shows_applyListing o models now
  have names (e : String × LoadedModel) (t : Table String Nat) (k : String) :=
    Table.get?_insert t e.1 k (charge models e.1)
  have others (e : String × String) (t : Table String Nat) (k : String) :=
    Table.get?_insert t e.1 k (charge models e.2)
  rw [lastVram_applyListing, lookup_foldl Table.get? (fun t e k => others e t k)
      (o.applyListing models now).aliases.nodup, lookup_foldl Table.get? (fun t e k => names e t k)
      (o.applyListing models now).loaded.nodup_keys, h.charge_of_alias, h.charge_of_name, noted?,
    Option.map_or, Option.or_assoc]

/-- Under every name the size is known that was noted last. -/
theorem Unpolled.known_polled (h : Unpolled o) (rounds : List (Http.Network × Time)) (s : String) :
    (o.polled rounds).lastVram.get? s =
      (lastNoted? (o.listings rounds) s).map fun m => m.vramBytes / 2 ^ 20 := by
  induction rounds using List.reverseRecOn with
  | nil => exact h.unknown s
  | append_singleton rounds r ih =>
    rw [listings_append, lastNoted?, List.filterMap_append, List.getLast?_append]
    rcases o.polled_concat_cases rounds r with ⟨models, listed, after⟩ | ⟨listed, after⟩
    · rw [listed, after, known_applyListing, ih, Option.map_or]
      cases hm : noted? models s <;> simp [hm, lastNoted?]
    · rw [listed, after]
      exact ih

theorem Unpolled.knownVram?_polled (h : Unpolled o) (rounds : List (Http.Network × Time)) (q : String) :
    (o.polled rounds).knownVram? q =
      (remembered? (o.listings rounds) q).map fun m => m.vramBytes / 2 ^ 20 := by
  rw [knownVram?, spellings, List.findSome?_cons, List.findSome?_cons, List.findSome?_nil,
    h.known_polled, h.known_polled, remembered?]
  cases lastNoted? (o.listings rounds) q <;>
    cases lastNoted? (o.listings rounds) (q ++ ":latest") <;> rfl

end Sizes

section Cold

theorem noted?_isSome : (noted? models s).isSome = (listedAs? models s).isSome := by
  rw [noted?, listedAs?, Option.isSome_or, Option.isSome_or, Bool.or_comm]

theorem noted?_of_single (single : ¬((∃ m ∈ models, m.name = s) ∧
    ∃ m ∈ models, m.otherName = some s ∧ m.name ≠ s)) : noted? models s = listedAs? models s := by
  rw [noted?, listedAs?]
  by_cases named : ∃ m ∈ models, m.name = s
  · have unaliased : lastAliased models s = none := by
      have none_left : ∀ m ∈ models, m.otherName = some s → m.name = s := by
        simpa [named] using single
      simpa [lastAliased] using none_left
    rw [unaliased, Option.bind_none, Option.none_or, Option.or_none]
  · have unnamed : lastNamed models s = none := by
      rw [← Option.not_isSome_iff_eq_none, lastNamed_isSome]
      exact named
    rw [unnamed, Option.none_or, Option.or_none]

/-- Where one model has a name that is another name for a second one, the first is found and the size of the
second is noted. -/
example :
    let first : ListedModel := ⟨"a", none, 2 ^ 30, none⟩
    let second : ListedModel := ⟨"b", some "a", 2 ^ 31, none⟩
    listedAs? [first, second] "a" = some first ∧ noted? [first, second] "a" = some second := by
  decide +kernel

theorem noted?_of_cold (cold : meant? models q = none) (hs : s ∈ spellings q) : noted? models s = none := by
  rw [meant?, Option.or_eq_none_iff] at cold
  rw [← Option.not_isSome_iff_eq_none, noted?_isSome, Option.not_isSome_iff_eq_none]
  simp only [spellings, List.mem_cons, List.not_mem_nil, or_false] at hs
  rcases hs with rfl | rfl
  · exact cold.1
  · exact cold.2

theorem lastNoted?_concat (ls : List (List ListedModel)) (models : List ListedModel) (s : String) :
    lastNoted? (ls ++ [models]) s = (noted? models s).or (lastNoted? ls s) := by
  rw [lastNoted?, List.filterMap_append, List.getLast?_append]
  cases hm : noted? models s <;> simp [hm, lastNoted?]

theorem remembered?_of_cold (ls : List (List ListedModel)) {later : List (List ListedModel)}
    (cold : ∀ models ∈ later, meant? models q = none) : remembered? (ls ++ later) q = remembered? ls q := by
  have unnoted : ∀ s ∈ spellings q, lastNoted? (ls ++ later) s = lastNoted? ls s := by
    intro s hs
    have silent : (later.filterMap fun models => noted? models s) = [] :=
      List.filterMap_eq_nil_iff.mpr fun models hm => noted?_of_cold (cold models hm) hs
    rw [lastNoted?, List.filterMap_append, silent, List.append_nil, lastNoted?]
  rw [remembered?, remembered?, unnoted _ List.mem_cons_self,
    unnoted _ (List.mem_cons_of_mem _ List.mem_cons_self)]

theorem Unpolled.cold_listings (h : Unpolled o) {earlier later : List (Http.Network × Time)} {queue : Queue}
    (cold : ∀ next, next <+: later → next ≠ [] →
      ((o.polled (earlier ++ next)).report queue q).isLoaded ≠ true) :
    ∀ models ∈ o.listings later, meant? models q = none := by
  intro models hm
  obtain ⟨r, hr, listed⟩ := List.mem_filterMap.mp hm
  obtain ⟨before, after, rfl⟩ := List.append_of_mem hr
  have latest : (o.listings (earlier ++ (before ++ [r]))).getLast? = some models := by
    have one : o.listings [r] = [models] := by simp [listings, listed]
    rw [listings_append, listings_append, one, ← List.append_assoc, List.getLast?_concat]
  have unloaded := cold (before ++ [r]) ⟨after, by simp⟩ (by simp)
  rw [Ne, h.isLoaded_iff] at unloaded
  rw [← Option.not_isSome_iff_eq_none]
  exact fun found => unloaded ⟨models, latest, found⟩

theorem lastNoted?_of_unlisted {ls : List (List ListedModel)}
    (unlisted : ∀ models ∈ ls, ∀ m ∈ models, m.name ≠ s ∧ m.otherName ≠ some s) : lastNoted? ls s = none := by
  have silent : (ls.filterMap fun models => noted? models s) = [] := by
    refine List.filterMap_eq_nil_iff.mpr fun models hmodels => ?_
    rw [← Option.not_isSome_iff_eq_none, noted?_isSome, listedAs?_isSome]
    rintro ⟨m, hm, named | aliased⟩
    · exact (unlisted models hmodels m hm).1 named
    · exact (unlisted models hmodels m hm).2 aliased
  rw [lastNoted?, silent, List.getLast?_nil]

/-- The names by which a model is found are the ones by which it is remembered: it is listed under the name
that was asked for, or no model ever was, and no two models share a name. -/
structure Steady (ls : List (List ListedModel)) (models : List ListedModel) (q : String) : Prop where
  spelling : (∃ m ∈ models, m.name = q ∨ m.otherName = some q) ∨
    ∀ l ∈ ls, ∀ m ∈ l, m.name ≠ q ∧ m.otherName ≠ some q
  single : ∀ s ∈ spellings q, ¬((∃ m ∈ models, m.name = s) ∧
    ∃ m ∈ models, m.otherName = some s ∧ m.name ≠ s)

theorem remembered?_of_meant {ls : List (List ListedModel)} {m : ListedModel}
    (latest : ls.getLast? = some models) (found : meant? models q = some m) :
    ∃ noted, remembered? ls q = some noted ∧ (Steady ls models q → noted = m) := by
  obtain ⟨before, rfl⟩ : ∃ before, ls = before ++ [models] := List.getLast?_eq_some_iff.mp latest
  rw [remembered?, lastNoted?_concat, lastNoted?_concat]
  have noted {s : String} {m' : ListedModel} (listed : listedAs? models s = some m') :
      ∃ noted, noted? models s = some noted :=
    Option.isSome_iff_exists.mp (noted?_isSome.trans (Option.isSome_of_eq_some listed))
  have same {s : String} (steady : Steady (before ++ [models]) models q) (hs : s ∈ spellings q) :
      noted? models s = listedAs? models s := noted?_of_single (steady.single s hs)
  rw [meant?] at found
  cases own : listedAs? models q with
  | some m' =>
    rw [own, Option.some_or] at found
    obtain ⟨n, hn⟩ := noted own
    refine ⟨n, by simp [hn], fun steady => Option.some.inj ?_⟩
    rw [← hn, ← found, ← own]
    exact same steady List.mem_cons_self
  | none =>
    rw [own, Option.none_or] at found
    obtain ⟨n, hn⟩ := noted found
    have unnoted : noted? models q = none := by
      rw [← Option.not_isSome_iff_eq_none, noted?_isSome, own]
      simp
    rw [unnoted, Option.none_or, hn, Option.some_or]
    cases stale : lastNoted? before q with
    | none =>
      refine ⟨n, rfl, fun steady => Option.some.inj ?_⟩
      rw [← hn, ← found]
      exact same steady (List.mem_cons_of_mem _ List.mem_cons_self)
    | some old =>
      -- an earlier listing had the name itself, and its size is found first
      refine ⟨old, rfl, fun steady => ?_⟩
      rcases steady.spelling with listed | never
      · rw [← listedAs?_isSome, own] at listed
        cases listed
      · have forgotten := lastNoted?_of_unlisted (s := q) fun l hl => never l (List.mem_append_left _ hl)
        rw [stale] at forgotten
        cases forgotten

/-- A model that is not loaded any more has capacity just where as much memory is left as was noted last under
its name, or else under its name with the usual tag, and at least some. This is the memory that was reported
of it when it was last loaded, if the listing of then is a steady one. -/
theorem cold_model_needs_noted_size (provider address : String) (settings : OllamaSettings)
    (showsQueue : Bool) (rounds : List (Http.Network × Time)) (queue : Queue) (q : String) :
    let o := ofAddress provider address settings showsQueue
    (∃ start, start <+: rounds ∧ ((o.polled start).report queue q).isLoaded = true) →
    ((o.polled rounds).report queue q).isLoaded = false →
    ∃ earlier later models meant noted, rounds = earlier ++ later ∧
      ((o.polled earlier).report queue q).isLoaded = true ∧
      (∀ next, next <+: later → next ≠ [] →
        ((o.polled (earlier ++ next)).report queue q).isLoaded = false) ∧
      (o.listings earlier).getLast? = some models ∧ meant? models q = some meant ∧
      ((o.polled earlier).report queue q).telemetry = .memory settings.totalVramMb
        (o.polled earlier).availableVram (meant.vramBytes / 2 ^ 20) (o.polled earlier).loaded.keys
        (meant.expiresAt.bind Timestamp.read?) ∧
      remembered? (o.listings rounds) q = some noted ∧
      (((o.polled rounds).capacity q).hasCapacity = true ↔
        max (noted.vramBytes / 2 ^ 20) 1 ≤ (o.polled rounds).availableVram) ∧
      (Steady (o.listings earlier) models q → noted = meant) := by
  rintro o ⟨start, hstart, warm⟩ cold
  have unpolled : Unpolled o := unpolled_ofAddress ..
  obtain ⟨earlier, later, rfl, loaded, unloaded⟩ := exists_last_start
    (P := fun rounds => ((o.polled rounds).report queue q).isLoaded = true) hstart warm
  obtain ⟨models, latest, found⟩ := (unpolled.isLoaded_iff earlier queue q).mp loaded
  obtain ⟨meant, hmeant⟩ := Option.isSome_iff_exists.mp found
  obtain ⟨noted, remembered, steady⟩ := remembered?_of_meant latest hmeant
  have known : remembered? (o.listings (earlier ++ later)) q = some noted := by
    rw [listings_append, remembered?_of_cold _ (unpolled.cold_listings unloaded), remembered]
  refine ⟨earlier, later, models, meant, noted, rfl, loaded,
    fun next hn ne => eq_false_of_ne_true (unloaded next hn ne), latest, hmeant, ?_, known, ?_, steady⟩
  · have shows := unpolled.shows_polled earlier
    rw [latest, Option.getD_some] at shows
    have reported := shows.resident? q
    rw [hmeant] at reported
    rw [report, telemetry, reported, settings_polled]
    rfl
  · have absent : ((o.polled (earlier ++ later)).resident? q).isSome = false := cold
    rw [capacity, absent, unpolled.knownVram?_polled, known]
    simp

/-- A model that was loaded with its tag fits again into what another one leaves. -/
theorem tagged_model_fits_again :
    let o : Ollama := .ofAddress "p" "http://h" .standard false
    let body (name bytes : String) := "\x7b\"models\":[\x7b\"name\":\"" ++ name ++ "\",\"size_vram\":" ++
      bytes ++ "\x7d]\x7d"
    let rounds : List (Http.Network × Time) := [(fun _ => some ⟨200, body "llama3:latest" "4294967296"⟩, 0),
      (.down, seconds 5), (fun _ => some ⟨200, body "mixtral" "12884901888"⟩, seconds 10)]
    (∃ start, start <+: rounds ∧ ((o.polled start).report .empty "llama3").isLoaded = true) ∧
      ((o.polled rounds).report .empty "llama3").isLoaded = false ∧
      ((o.polled rounds).capacity "llama3").hasCapacity = true := by
  intro o body rounds
  have unpolled : Unpolled o := unpolled_ofAddress ..
  have first : o.listings (rounds.take 1) = [[⟨"llama3:latest", none, 4294967296, none⟩]] := by
    decide +kernel
  have all : o.listings rounds = [[⟨"llama3:latest", none, 4294967296, none⟩],
      [⟨"mixtral", none, 12884901888, none⟩]] := by decide +kernel
  have warm : ∃ start, start <+: rounds ∧ ((o.polled start).report .empty "llama3").isLoaded = true :=
    ⟨rounds.take 1, List.take_prefix 1 rounds,
      (unpolled.isLoaded_iff _ _ _).mpr ⟨_, by rw [first]; rfl, by decide +kernel⟩⟩
  have cold : ((o.polled rounds).report .empty "llama3").isLoaded = false := by
    refine eq_false_of_ne_true fun loaded => ?_
    obtain ⟨models, latest, found⟩ := (unpolled.isLoaded_iff _ _ _).mp loaded
    rw [all] at latest
    cases latest
    revert found
    decide +kernel
  have available : (o.polled rounds).availableVram = 4096 := by
    rw [availableVram, settings_polled, (unpolled.shows_polled rounds).usedVram, all]
    decide +kernel
  obtain ⟨_, _, _, _, noted, _, _, _, _, _, _, known, room, _⟩ :=
    cold_model_needs_noted_size "p" "http://h" .standard false rounds .empty "llama3" warm cold
  have remembered : remembered? (o.listings rounds) "llama3" =
      some ⟨"llama3:latest", none, 4294967296, none⟩ := by
    rw [all]
    decide +kernel
  obtain rfl := Option.some.inj (known.symm.trans remembered)
  exact ⟨warm, cold, room.mpr (by rw [available]; decide)⟩

/-- A model that was listed without its tag and later, much smaller, with it: when it is not loaded any more
it is taken to need what it took in the listing before the last one. -/
theorem size_of_untagged_name_stays :
    let o : Ollama := .ofAddress "p" "http://h" .standard false
    let body (name bytes : String) := "\x7b\"models\":[\x7b\"name\":\"" ++ name ++ "\",\"size_vram\":" ++
      bytes ++ "\x7d]\x7d"
    let earlier : List (Http.Network × Time) := [(fun _ => some ⟨200, body "llama3" "8589934592"⟩, 0),
      (fun _ => some ⟨200, body "llama3:latest" "2147483648"⟩, seconds 5)]
    let rounds := earlier ++ [(fun _ => some ⟨200, body "mixtral" "12884901888"⟩, seconds 10)]
    ((o.polled earlier).report .empty "llama3").isLoaded = true ∧
      ((o.polled earlier).report .empty "llama3").telemetry =
        .memory 16384 14336 2048 ["llama3:latest"] none ∧
      ((o.polled rounds).report .empty "llama3").isLoaded = false ∧
      ¬(((o.polled rounds).capacity "llama3").hasCapacity = true ↔
        max 1 2048 ≤ (o.polled rounds).availableVram) := by
  decide +kernel

end Cold

end Ollama

end InferenceDispatch
