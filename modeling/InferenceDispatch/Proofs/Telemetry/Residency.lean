import InferenceDispatch.Proofs.Lookup
import InferenceDispatch.Proofs.Runs
import InferenceDispatch.Telemetry.Ollama
import Mathlib.Algebra.Group.Action.Defs
import Mathlib.Algebra.Order.BigOperators.Group.Finset
import Mathlib.Algebra.Ring.Nat

namespace InferenceDispatch

theorem Whole.foldl_wrap (l : List Nat) (n : Nat) :
    l.foldl (fun a b => wrap (a + b)) (wrap n) = wrap (n + l.sum) := by
  induction l generalizing n with
  | nil => simp
  | cons b l ih => rw [List.foldl_cons, wrap_wrap_add, ih, List.sum_cons, Nat.add_assoc]

theorem Datum.asCount?_lt {d : Datum} {n : Nat} (h : d.asCount? = some n) : n < 2 ^ 64 := by
  unfold Datum.asCount? at h
  split at h
  next =>
    split at h
    next fits =>
      cases h
      have bound := fits.2
      simp only [Whole.wordBound] at bound
      omega
    next => cases h
  next => cases h

namespace ListedModel

theorem vramBytes_lt {d : Datum} {m : ListedModel} (h : ofDatum? d = some m) : m.vramBytes < 2 ^ 64 := by
  simp only [ofDatum?, bind, Option.bind_eq_some_iff, pure, Option.some.injEq] at h
  obtain ⟨r, _, _, _, _, _, bytes, hbytes, _, _, rfl⟩ := h
  unfold Record.defaulted at hbytes
  split at hbytes
  next => exact Datum.asCount?_lt hbytes
  next =>
    cases hbytes
    exact Nat.two_pow_pos 64

theorem vramBytes_lt_of_items {items : List Datum} {models : List ListedModel}
    (h : items.mapM ofDatum? = some models) : ∀ m ∈ models, m.vramBytes < 2 ^ 64 := by
  induction items generalizing models with
  | nil =>
    cases h
    simp
  | cons d items ih =>
    simp only [List.mapM_cons, bind, Option.bind_eq_some_iff, pure, Option.some.injEq] at h
    obtain ⟨m, hm, rest, hrest, rfl⟩ := h
    exact List.forall_mem_cons.mpr ⟨vramBytes_lt hm, ih hrest⟩

theorem vramBytes_lt_of_listing {body : String} {models : List ListedModel}
    (h : listing? body = some models) : ∀ m ∈ models, m.vramBytes < 2 ^ 64 := by
  simp only [listing?, bind, Option.bind_eq_some_iff] at h
  obtain ⟨_, _, r, _, h⟩ := h
  unfold Record.defaulted at h
  split at h
  next =>
    unfold Datum.asList? at h
    split at h
    next => exact vramBytes_lt_of_items h
    next => cases h
  next =>
    cases h
    simp

end ListedModel

namespace Ollama

/-- A host after it has been polled over and over, each time over some network. -/
def polled (o : Ollama) (rounds : List (Http.Network × Time)) : Ollama :=
  rounds.foldl (fun o r => (o.refresh r.1 r.2).1) o

def lastNamed (models : List ListedModel) (name : String) : Option ListedModel :=
  (models.filter fun m => m.name = name).getLast?

/-- The last of the models that have `other` as another name besides their own. -/
def lastAliased (models : List ListedModel) (other : String) : Option ListedModel :=
  (models.filter fun m => m.otherName = some other ∧ m.name ≠ other).getLast?

/-- The memory that is charged for a name, in whole megabytes. -/
def charge (models : List ListedModel) (name : String) : Nat :=
  ((lastNamed models name).map fun m => m.vramBytes / 2 ^ 20).getD 0

/-- The model that is listed as `s`: under that name, or else under the name that `s` is another one
for. -/
def listedAs? (models : List ListedModel) (s : String) : Option ListedModel :=
  (lastNamed models s).or ((lastAliased models s).bind fun m => lastNamed models m.name)

/-- The listed model that is meant by a name: the one that is listed as such, or else with the usual
tag. -/
def meant? (models : List ListedModel) (q : String) : Option ListedModel :=
  (listedAs? models q).or (listedAs? models (q ++ ":latest"))

structure Shows (models : List ListedModel) (o : Ollama) : Prop where
  loaded : ∀ name, o.loaded.get? name = (lastNamed models name).map ListedModel.loaded
  aliases : ∀ other, o.aliases.get? other = (lastAliased models other).map ListedModel.name

variable {models : List ListedModel} {o : Ollama} {net : Http.Network} {now : Time} {name : String}

section Polls

theorem settings_refresh (o : Ollama) (net : Http.Network) (now : Time) :
    (o.refresh net now).1.settings = o.settings := by
  unfold refresh
  split <;> rfl

theorem listingUrl_refresh (o : Ollama) (net : Http.Network) (now : Time) :
    (o.refresh net now).1.listingUrl = o.listingUrl := by
  unfold refresh
  split <;> rfl

theorem filter_aliases (models : List ListedModel) (other : String) :
    ((models.filterMap fun m => (m.otherName.filter (· ≠ m.name)).map fun a => (a, m.name)).filter
      fun e => e.1 = other) =
    (models.filter fun m => m.otherName = some other ∧ m.name ≠ other).map fun m => (other, m.name) := by
  induction models with
  | nil => rfl
  | cons m models ih =>
    cases ha : m.otherName with
    | none => simpa [List.filterMap_cons, ha] using ih
    | some a =>
      by_cases own : a = m.name
      · have apart : ¬(a = other ∧ m.name ≠ other) := fun h => h.2 (own ▸ h.1)
        simpa [List.filterMap_cons, ha, own, Option.filter, apart] using ih
      · by_cases hk : a = other
        · subst hk
          simpa [List.filterMap_cons, ha, own, Ne.symm own, Option.filter] using ih
        · simpa [List.filterMap_cons, ha, own, hk, Option.filter] using ih

theorem shows_applyListing (o : Ollama) (models : List ListedModel) (now : Time) :
    Shows models (o.applyListing models now) where
  loaded := by
    intro name
    simp only [applyListing, SortedMap.get?_ofList, List.filter_map, List.getLast?_map, Option.map_map]
    rfl
  aliases := by
    intro other
    simp only [applyListing, Table.get?_ofList, filter_aliases, List.getLast?_map, Option.map_map]
    rfl

theorem listingOf_eq_ok_iff {answer : Except Http.Fault Http.Response} {models : List ListedModel} :
    listingOf answer = .ok models ↔ ∃ response, answer = .ok response ∧
      Http.isSuccess response.status = true ∧ ListedModel.listing? response.body = some models := by
  cases answer with
  | error fault => simp [listingOf]
  | ok response =>
    by_cases success : Http.isSuccess response.status = true
    · cases hl : ListedModel.listing? response.body <;> simp [listingOf, success, hl]
    · simp [listingOf, success]

theorem vramBytes_lt_of_listed {answer : Except Http.Fault Http.Response}
    (listed : listingOf answer = .ok models) : ∀ m ∈ models, m.vramBytes < 2 ^ 64 := by
  obtain ⟨_, _, _, read⟩ := listingOf_eq_ok_iff.mp listed
  exact ListedModel.vramBytes_lt_of_listing read

theorem refresh_listed (listed : listingOf (Http.fetch net o.listingUrl none) = .ok models)
    (now : Time) : (o.refresh net now).1 = o.applyListing models now := by
  simp only [refresh, listed]

/-- A poll that fails leaves the listing in effect that was. -/
theorem Shows.refresh (h : Shows models o) {reason : String}
    (failed : listingOf (Http.fetch net o.listingUrl none) = .error reason) (now : Time) :
    Shows models (o.refresh net now).1 := by
  simp only [Ollama.refresh, failed]
  exact ⟨h.loaded, h.aliases⟩

theorem settings_polled (o : Ollama) (rounds : List (Http.Network × Time)) :
    (o.polled rounds).settings = o.settings := by
  induction rounds generalizing o with
  | nil => rfl
  | cons r rounds ih => exact (ih _).trans (settings_refresh o r.1 r.2)

theorem listingUrl_polled (o : Ollama) (rounds : List (Http.Network × Time)) :
    (o.polled rounds).listingUrl = o.listingUrl := by
  induction rounds generalizing o with
  | nil => rfl
  | cons r rounds ih => exact (ih _).trans (listingUrl_refresh o r.1 r.2)

theorem Shows.polled (h : Shows models o) {rounds : List (Http.Network × Time)}
    (failed : ∀ r ∈ rounds, ∃ reason,
      listingOf (Http.fetch r.1 o.listingUrl none) = .error reason) :
    Shows models (o.polled rounds) := by
  induction rounds generalizing o with
  | nil => exact h
  | cons r rounds ih =>
    obtain ⟨reason, first⟩ := failed r List.mem_cons_self
    refine ih (h.refresh first r.2) fun r' hr' => ?_
    rw [listingUrl_refresh]
    exact failed r' (List.mem_cons_of_mem r hr')

theorem shows_polled {earlier later : List (Http.Network × Time)}
    (listed : listingOf (Http.fetch net o.listingUrl none) = .ok models)
    (failed : ∀ r ∈ later, ∃ reason, listingOf (Http.fetch r.1 o.listingUrl none) = .error reason) :
    Shows models (o.polled (earlier ++ (net, now) :: later)) := by
  have shows : Shows models ((o.polled earlier).refresh net now).1 := by
    rw [← listingUrl_polled o earlier] at listed
    rw [refresh_listed listed]
    exact shows_applyListing ..
  rw [Ollama.polled, List.foldl_append, List.foldl_cons]
  refine shows.polled fun r hr => ?_
  have address := (listingUrl_refresh (o.polled earlier) net now).trans (listingUrl_polled o earlier)
  rw [address]
  exact failed r hr

end Polls

section Listing

theorem lastNamed_mem {m : ListedModel} (h : lastNamed models name = some m) :
    m ∈ models ∧ m.name = name := by
  obtain ⟨hm, hn⟩ := List.mem_filter.mp (List.mem_of_getLast? h)
  exact ⟨hm, of_decide_eq_true hn⟩

theorem lastNamed_isSome : (lastNamed models name).isSome ↔ ∃ m ∈ models, m.name = name := by
  simp [lastNamed]

theorem lastAliased_mem {other : String} {m : ListedModel} (h : lastAliased models other = some m) :
    m ∈ models ∧ m.otherName = some other := by
  obtain ⟨hm, ha⟩ := List.mem_filter.mp (List.mem_of_getLast? h)
  exact ⟨hm, (of_decide_eq_true ha).1⟩

theorem listedAs?_isSome {s : String} :
    (listedAs? models s).isSome ↔ ∃ m ∈ models, m.name = s ∨ m.otherName = some s := by
  rw [listedAs?, Option.isSome_or, Bool.or_eq_true, lastNamed_isSome]
  constructor
  · rintro (⟨m, hm, named⟩ | aliased)
    · exact ⟨m, hm, Or.inl named⟩
    · obtain ⟨m', hm'⟩ := Option.isSome_iff_exists.mp aliased
      obtain ⟨m, ha, _⟩ := Option.bind_eq_some_iff.mp hm'
      obtain ⟨hm, other⟩ := lastAliased_mem ha
      exact ⟨m, hm, Or.inr other⟩
  · rintro ⟨m, hm, named | other⟩
    · exact Or.inl ⟨m, hm, named⟩
    · by_cases named : m.name = s
      · exact Or.inl ⟨m, hm, named⟩
      · have aliased : (lastAliased models s).isSome := by
          simpa [lastAliased] using ⟨m, hm, other, named⟩
        obtain ⟨m', ha⟩ := Option.isSome_iff_exists.mp aliased
        rw [ha, Option.bind_some, lastNamed_isSome]
        exact Or.inr ⟨m', (lastAliased_mem ha).1, rfl⟩

theorem meant?_isSome {q : String} : (meant? models q).isSome ↔
    ∃ m ∈ models, ∃ s ∈ spellings q, m.name = s ∨ m.otherName = some s := by
  rw [meant?, Option.isSome_or, Bool.or_eq_true, listedAs?_isSome, listedAs?_isSome]
  simpa [spellings, and_or_left, exists_or] using or_or_or_comm

theorem sum_charge_lt (bytes : ∀ m ∈ models, m.vramBytes < 2 ^ 64)
    (few : (models.map ListedModel.name).toFinset.card ≤ 2 ^ 20) :
    ∑ name ∈ (models.map ListedModel.name).toFinset, charge models name < Whole.wordBound := by
  have each : ∀ name ∈ (models.map ListedModel.name).toFinset, charge models name ≤ 2 ^ 44 - 1 := by
    intro name _
    rw [charge]
    cases hm : lastNamed models name with
    | none => exact Nat.zero_le _
    | some m =>
      have bytes := bytes m (lastNamed_mem hm).1
      simp only [Option.map_some, Option.getD_some]
      omega
  calc ∑ name ∈ (models.map ListedModel.name).toFinset, charge models name
      ≤ (models.map ListedModel.name).toFinset.card * (2 ^ 44 - 1) :=
        Finset.sum_le_card_nsmul _ _ _ each
    _ ≤ 2 ^ 20 * (2 ^ 44 - 1) := Nat.mul_le_mul_right _ few
    _ < Whole.wordBound := by decide

theorem lastNamed_of_nodup (nodup : (models.map ListedModel.name).Nodup) {m : ListedModel}
    (hm : m ∈ models) : lastNamed models m.name = some m := by
  obtain ⟨m', hm'⟩ := Option.isSome_iff_exists.mp (lastNamed_isSome.mpr ⟨m, hm, rfl⟩)
  obtain ⟨mem, named⟩ := lastNamed_mem hm'
  rw [hm', List.inj_on_of_nodup_map nodup mem hm named]

theorem sum_charge_of_nodup (nodup : (models.map ListedModel.name).Nodup) :
    ∑ name ∈ (models.map ListedModel.name).toFinset, charge models name =
      (models.map fun m => m.vramBytes / 2 ^ 20).sum := by
  rw [List.sum_toFinset (charge models) nodup, List.map_map]
  congr 1
  refine List.map_congr_left fun m hm => ?_
  rw [Function.comp_apply, charge, lastNamed_of_nodup nodup hm]
  rfl

def crowd (count bytes : Nat) : List ListedModel :=
  (List.range count).map fun n => ⟨String.singleton (Char.ofNat (0x10000 + n)), none, bytes, none⟩

/-- As many of the largest models as there are characters of four bytes, and one more, of 2 ^ 20 megabytes. -/
def crowded : List ListedModel :=
  ⟨String.singleton 'a', none, 0x10000000000, none⟩ :: crowd 0x100000 Whole.maxWord

theorem sum_crowd (count bytes : Nat) :
    ((crowd count bytes).map fun m => m.vramBytes / 2 ^ 20).sum = count * (bytes / 2 ^ 20) := by
  have each : ∀ n ∈ List.range count, ((fun m => m.vramBytes / 2 ^ 20) ∘ fun n : Nat =>
      (⟨String.singleton (Char.ofNat (0x10000 + n)), none, bytes, none⟩ : ListedModel)) n =
      bytes / 2 ^ 20 := fun n _ => rfl
  rw [crowd, List.map_map, List.map_congr_left each, List.map_const', List.length_range,
    List.sum_replicate_nat]

theorem nodup_crowd {count bytes : Nat} (h : count ≤ 0x100000) {first : ListedModel}
    (plain : first.name = String.singleton 'a') :
    ((first :: crowd count bytes).map ListedModel.name).Nodup := by
  have point : ∀ n < count, (Char.ofNat (0x10000 + n)).toNat = 0x10000 + n := by
    intro n hn
    have valid : (0x10000 + n).isValidChar := Or.inr (by omega)
    rw [Char.ofNat, dif_pos valid]
    rfl
  rw [crowd, List.map_cons, List.map_map, List.nodup_cons, plain]
  constructor
  · intro hm
    obtain ⟨n, hn, hname⟩ := List.mem_map.mp hm
    have same := congrArg Char.toNat (String.singleton_inj.mp hname)
    rw [point n (List.mem_range.mp hn)] at same
    have small : 'a'.toNat < 0x10000 := by decide
    omega
  · refine List.nodup_range.map_on fun m hm n hn hname => ?_
    have same := congrArg Char.toNat (String.singleton_inj.mp hname)
    rw [point m (List.mem_range.mp hm), point n (List.mem_range.mp hn)] at same
    exact Nat.add_left_cancel same

-- the number of models stays a variable up to here, as a list of 2 ^ 20 items is not to be unfolded
theorem sum_charge_crowded :
    ∑ name ∈ (crowded.map ListedModel.name).toFinset, charge crowded name = Whole.wordBound := by
  unfold crowded
  rw [sum_charge_of_nodup (nodup_crowd (Nat.le_refl _) rfl), List.map_cons, List.sum_cons, sum_crowd]
  decide

end Listing

namespace Shows

theorem mem_keys (h : Shows models o) : name ∈ o.loaded.keys ↔ ∃ m ∈ models, m.name = name := by
  rw [← lastNamed_isSome, ← Option.isSome_map (f := ListedModel.loaded), ← h.loaded]
  simp [SortedMap.keys, Option.isSome_iff_exists, SortedMap.get?_eq_some_iff]

theorem resident_of_alias (h : Shows models o) {other : String} (ha : o.aliases.get? other = some name) :
    name ∈ o.loaded.keys := by
  rw [h.aliases] at ha
  obtain ⟨m, hm, rfl⟩ := Option.map_eq_some_iff.mp ha
  exact h.mem_keys.mpr ⟨m, (lastAliased_mem hm).1, rfl⟩

theorem spelled (h : Shows models o) (s : String) :
    let found := if o.loaded.contains s then some s else o.aliases.get? s
    found.bind o.loaded.get? = (listedAs? models s).map ListedModel.loaded ∧
      (found = none ↔ listedAs? models s = none) := by
  cases hn : lastNamed models s with
  | some m =>
    have resident : o.loaded.get? s = some m.loaded := by
      rw [h.loaded, hn]
      rfl
    have contained : o.loaded.contains s = true := SortedMap.contains_iff.mpr ⟨_, resident⟩
    simp [contained, resident, listedAs?, hn]
  | none =>
    have absent : ¬o.loaded.contains s = true := by
      rw [SortedMap.contains_iff, h.loaded, hn]
      simp
    rw [if_neg absent, h.aliases, listedAs?, hn, Option.none_or]
    cases ha : lastAliased models s with
    | none => simp
    | some m =>
      have resident : (lastNamed models m.name).isSome :=
        lastNamed_isSome.mpr ⟨m, (lastAliased_mem ha).1, rfl⟩
      obtain ⟨m', hm'⟩ := Option.isSome_iff_exists.mp resident
      simp [h.loaded, hm']

theorem resident? (h : Shows models o) (q : String) :
    o.resident? q = (meant? models q).map ListedModel.loaded := by
  obtain ⟨first, unlisted⟩ := h.spelled q
  obtain ⟨second, _⟩ := h.spelled (q ++ ":latest")
  rw [Ollama.resident?, resolve?, spellings, List.findSome?_cons, meant?]
  split
  next found hfound =>
    -- the first spelling leads somewhere, so the second one is not looked at
    rw [hfound] at first unlisted
    obtain ⟨m, hm⟩ := Option.ne_none_iff_exists'.mp (unlisted.not.mp (by simp))
    rw [first, hm, Option.some_or]
  next hfound =>
    rw [unlisted.mp hfound, Option.none_or, ← second, List.findSome?_cons, List.findSome?_nil]
    split <;> simp [*]

theorem charged (h : Shows models o) : ∀ e ∈ o.loaded.entries, e.2.vramMb = charge models e.1 := by
  intro e he
  have resident := (h.loaded e.1).symm.trans (SortedMap.get?_eq_some_iff.mpr he)
  obtain ⟨m, hm, hl⟩ := Option.map_eq_some_iff.mp resident
  rw [charge, hm, ← hl]
  rfl

theorem usedVram (h : Shows models o) : o.usedVram =
    Whole.wrap (∑ name ∈ (models.map ListedModel.name).toFinset, charge models name) := by
  have names : o.loaded.keys.toFinset = (models.map ListedModel.name).toFinset := by
    ext name
    rw [List.mem_toFinset, List.mem_toFinset, h.mem_keys, List.mem_map]
  have sum : (o.loaded.entries.map fun e => e.2.vramMb).sum =
      ∑ name ∈ (models.map ListedModel.name).toFinset, charge models name := by
    rw [← names, List.sum_toFinset (charge models) o.loaded.nodup_keys, SortedMap.keys, List.map_map,
      List.map_congr_left h.charged]
    rfl
  rw [← sum, ← Nat.zero_add (List.sum _), ← Whole.foldl_wrap, Ollama.usedVram, SortedMap.values,
    List.foldl_map, List.foldl_map]
  rfl

end Shows

/-- After a poll that succeeds, whatever polls there were before it and however many fail after it, what a
host reports is read off the listing: the memory that is left, which names lead to a loaded model, and to
which one. The memory is what the names are charged for as long as that fits in 64 bits. -/
theorem residency_follows_listing (o : Ollama) (earlier later : List (Http.Network × Time)) (now : Time)
    (listed : listingOf (Http.fetch net o.listingUrl none) = .ok models)
    (failed : ∀ r ∈ later, ∃ reason, listingOf (Http.fetch r.1 o.listingUrl none) = .error reason) :
    let o' := o.polled (earlier ++ (net, now) :: later)
    let taken := ∑ name ∈ (models.map ListedModel.name).toFinset, charge models name
    (taken < Whole.wordBound → o'.availableVram = o.settings.totalVramMb - taken) ∧
      ((models.map ListedModel.name).toFinset.card ≤ 2 ^ 20 → taken < Whole.wordBound) ∧
      (∀ name, name ∈ o'.loaded.keys ↔ ∃ m ∈ models, m.name = name) ∧
      (∀ other name, o'.aliases.get? other = some name → name ∈ o'.loaded.keys) ∧
      ∀ queue q,
        ((o'.report queue q).isLoaded = true ↔
          ∃ m ∈ models, ∃ s ∈ [q, q ++ ":latest"], m.name = s ∨ m.otherName = some s) ∧
        ((o'.report queue q).isLoaded = true ↔ (meant? models q).isSome) ∧
        (o'.report queue q).telemetry = .memory o.settings.totalVramMb o'.availableVram
          (((meant? models q).map fun m => m.vramBytes / 2 ^ 20).getD 0) o'.loaded.keys
          (((meant? models q).bind ListedModel.expiresAt).bind Timestamp.read?) := by
  intro o' taken
  have h : Shows models o' := shows_polled listed failed
  have settings : o'.settings = o.settings := settings_polled ..
  refine ⟨fun fits => ?_, sum_charge_lt (vramBytes_lt_of_listed listed), fun name => h.mem_keys,
    fun other name => h.resident_of_alias, fun queue q => ?_⟩
  · rw [availableVram, settings, h.usedVram, Whole.wrap_of_lt fits]
  · have loaded : (o'.report queue q).isLoaded = (meant? models q).isSome := by
      rw [report, h.resident?, Option.isSome_map]
    rw [loaded]
    refine ⟨meant?_isSome, Iff.rfl, ?_⟩
    rw [report, telemetry, settings, h.resident?, Option.map_map]
    cases meant? models q <;> rfl

/-- Two models share a name, each is listed under a name of the other one, and the last poll fails. -/
theorem shared_names_lead_to_one :
    let o : Ollama := .ofAddress "p" "http://h" .standard false
    let body := "\x7b\"models\":[" ++
      "\x7b\"name\":\"coder\",\"model\":\"small:latest\",\"size_vram\":8589934592\x7d," ++
      "\x7b\"name\":\"small\",\"model\":\"coder\",\"size_vram\":1073741824\x7d," ++
      "\x7b\"name\":\"coder\",\"model\":\"qwen\",\"size_vram\":2147483648\x7d]\x7d"
    let o' := o.polled [(fun _ => some ⟨200, body⟩, 0), (.down, seconds 5)]
    o'.availableVram = 13312 ∧
      (∀ queue, (o'.report queue "qwen").isLoaded = true) ∧
      ∀ queue, (o'.report queue "small:latest").telemetry =
        .memory 16384 13312 2048 o'.loaded.keys none := by
  intro o body o'
  let models : List ListedModel :=
    [⟨"coder", some "small:latest", 8589934592, none⟩, ⟨"small", some "coder", 1073741824, none⟩,
      ⟨"coder", some "qwen", 2147483648, none⟩]
  have listed : listingOf (Http.fetch (fun _ => some ⟨200, body⟩) o.listingUrl none) = .ok models :=
    eq_ok_of_toOption (by decide +kernel)
  have failed : ∀ r ∈ [(Http.Network.down, seconds 5)],
      ∃ reason, listingOf (Http.fetch r.1 o.listingUrl none) = .error reason := by
    intro r hr
    obtain rfl := List.mem_singleton.mp hr
    cases hr : Http.Request.build o.listingUrl none with
    | error fault => exact ⟨fault.message, by rw [Http.fetch, hr]; rfl⟩
    | ok request =>
      exact ⟨(Http.Fault.noConnection request.url).message, by rw [Http.fetch, hr]; rfl⟩
  obtain ⟨left, _, _, _, reports⟩ := residency_follows_listing o [] _ 0 listed failed
  have space : o'.availableVram = 13312 := (left (by decide +kernel)).trans (by decide +kernel)
  refine ⟨space, fun queue => ?_, fun queue => ?_⟩
  · exact (reports queue "qwen").2.1.mpr (by decide +kernel)
  · have meant : meant? models "small:latest" = some ⟨"coder", some "qwen", 2147483648, none⟩ := by
      decide +kernel
    have told := (reports queue "small:latest").2.2
    rw [List.nil_append, space, meant] at told
    exact told

/-- A host whose models take 2 ^ 64 megabytes seems to have its whole budget left, where nothing is left of
it; and the time at which a model expires is not told if it is written without an offset. -/
theorem crowded_host_seems_empty :
    (let o := (ofAddress "p" "http://h" .standard false).applyListing crowded 0
    (∀ m ∈ crowded, m.vramBytes ≤ Whole.maxWord) ∧ o.availableVram = 16384 ∧
      16384 - ∑ name ∈ (crowded.map ListedModel.name).toFinset, charge crowded name = 0) ∧
    (let body := "\x7b\"models\":[\x7b\"name\":\"llama3\",\"size_vram\":5368709120," ++
      "\"expires_at\":\"2024-06-04T14:38:31\"\x7d]\x7d"
    let o := ((ofAddress "p" "http://h" .standard false).refresh (fun _ => some ⟨200, body⟩) 0).1
    ListedModel.listing? body = some [⟨"llama3", none, 5368709120, some "2024-06-04T14:38:31"⟩] ∧
      (o.report .empty "llama3").telemetry = .memory 16384 11264 5120 ["llama3"] none) := by
  refine ⟨⟨?_, ?_, ?_⟩, by decide +kernel⟩
  · intro m hm
    rcases List.mem_cons.mp hm with rfl | hm
    · show 0x10000000000 ≤ Whole.maxWord
      decide
    · obtain ⟨n, _, rfl⟩ := List.mem_map.mp hm
      exact Nat.le_refl Whole.maxWord
  · have budget : ((ofAddress "p" "http://h" .standard false).applyListing crowded 0).settings =
        .standard := rfl
    rw [availableVram, (shows_applyListing _ crowded 0).usedVram, sum_charge_crowded, budget]
    decide
  · rw [sum_charge_crowded]
    decide

end Ollama

end InferenceDispatch
