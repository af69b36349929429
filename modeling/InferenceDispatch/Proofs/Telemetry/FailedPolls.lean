import InferenceDispatch.Proofs.Telemetry.Residency

namespace InferenceDispatch

namespace ListedModel

/-- The items that a body lists, whether or not each of them can be read. -/
def items? (body : String) : Option (List Datum) := do
  let r ← (← Json.read? body).asRecord? ["models"] false
  match r.find? "models" with
  | some (.list items) => some items
  | _ => none

theorem listing?_of_items {body : String} {items : List Datum} (h : items? body = some items) :
    listing? body = items.mapM ofDatum? := by
  simp only [items?, bind, Option.bind_eq_some_iff] at h
  obtain ⟨document, read, r, record, h⟩ := h
  split at h
  next found =>
    cases h
    simp only [listing?, bind, read, record, Option.bind_some, Record.defaulted, found, Datum.asList?]
  next => cases h

theorem listing?_isSome_iff {body : String} {items : List Datum} (h : items? body = some items) :
    (listing? body).isSome ↔ ∀ item ∈ items, (ofDatum? item).isSome := by
  rw [listing?_of_items h]
  clear h
  induction items with
  | nil => simp
  | cons item items ih =>
    rw [List.forall_mem_cons, ← ih, List.mapM_cons]
    cases ofDatum? item <;> cases items.mapM ofDatum? <;> simp

end ListedModel

namespace Ollama

/-- The polls of a run that brought a listing, each judged by what it returned in the run. -/
def updates (o : Ollama) : List (Http.Network × Time) → List (Http.Network × Time)
  | [] => []
  | r :: rounds =>
    match (o.refresh r.1 r.2).2 with
    | .updated _ => r :: (o.refresh r.1 r.2).1.updates rounds
    | .stale _ => (o.refresh r.1 r.2).1.updates rounds

structure TellsAs (o o' : Ollama) : Prop where
  report : ∀ queue q, o.report queue q = o'.report queue q
  capacity : ∀ q, o.capacity q = o'.capacity q
  availableVram : o.availableVram = o'.availableVram
  refreshedAt : o.refreshedAt = o'.refreshedAt

/-- The hosts differ at most in the number of polls that failed. -/
def Alike (o o' : Ollama) : Prop := ∃ n, o' = { o with failures := n }

variable {o o' : Ollama} {net : Http.Network} {now : Time}

theorem Alike.refl (o : Ollama) : Alike o o := ⟨o.failures, rfl⟩

theorem Alike.tellsAs (h : Alike o o') : TellsAs o o' := by
  obtain ⟨n, rfl⟩ := h
  exact ⟨fun _ _ => rfl, fun _ => rfl, rfl, rfl⟩

theorem Alike.listingUrl (h : Alike o o') : o'.listingUrl = o.listingUrl := by
  obtain ⟨n, rfl⟩ := h
  rfl

theorem Alike.applyListing (h : Alike o o') (models : List ListedModel) (now : Time) :
    o'.applyListing models now = o.applyListing models now := by
  obtain ⟨n, rfl⟩ := h
  rfl

theorem refresh_of_stale {reason : String} (h : (o.refresh net now).2 = .stale reason) :
    (o.refresh net now).1 = { o with failures := o.failures + 1 } := by
  unfold refresh at h ⊢
  split at h
  next => cases h
  next => rfl

theorem Alike.missed (h : Alike o o') {reason : String} (failed : (o.refresh net now).2 = .stale reason) :
    Alike (o.refresh net now).1 o' := by
  obtain ⟨n, rfl⟩ := h
  exact ⟨n, by rw [refresh_of_stale failed]⟩

theorem refresh_of_updated {n : Nat} (h : (o.refresh net now).2 = .updated n) :
    ∃ models, listingOf (Http.fetch net o.listingUrl none) = .ok models ∧ models.length = n ∧
      (o.refresh net now).1 = o.applyListing models now := by
  unfold refresh at h ⊢
  split at h
  next models listed =>
    cases h
    exact ⟨models, listed, rfl, rfl⟩
  next => cases h

/-- A poll brings a listing exactly when a response comes back that says that it succeeded and whose body can
be read as a whole. -/
theorem refresh_eq_updated_iff {n : Nat} : (o.refresh net now).2 = .updated n ↔
    ∃ response models, Http.fetch net o.listingUrl none = .ok response ∧
      Http.isSuccess response.status = true ∧ ListedModel.listing? response.body = some models ∧
      models.length = n := by
  constructor
  · intro h
    obtain ⟨models, listed, count, _⟩ := refresh_of_updated h
    obtain ⟨response, fetched, success, read⟩ := listingOf_eq_ok_iff.mp listed
    exact ⟨response, models, fetched, success, read, count⟩
  · rintro ⟨response, models, fetched, success, read, rfl⟩
    have listed := listingOf_eq_ok_iff.mpr ⟨response, fetched, success, read⟩
    simp only [refresh, listed]

theorem Alike.polled_updates (h : Alike o o') (rounds : List (Http.Network × Time)) :
    Alike (o.polled rounds) (o'.polled (o.updates rounds)) := by
  induction rounds generalizing o o' with
  | nil => exact h
  | cons r rounds ih =>
    rw [updates]
    split
    next n returned =>
      obtain ⟨models, listed, _, after⟩ := refresh_of_updated returned
      rw [← h.listingUrl] at listed
      have after' := (refresh_listed listed r.2).trans (h.applyListing models r.2)
      have same : (o'.refresh r.1 r.2).1 = (o.refresh r.1 r.2).1 := after'.trans after.symm
      rw [polled, polled, List.foldl_cons, List.foldl_cons, same]
      exact ih (.refl _)
    next reason returned => exact ih (h.missed returned)

/-- After any polls, whatever came of them, a host tells every reader what it would tell if only those polls
had been made, at their times, that brought a listing. These are the polls to which a response came that says
that it succeeded and whose body can be read as a whole; a listing of which a single model cannot be read
leaves everything that is told as it was. -/
theorem failed_polls_leave_no_trace (o : Ollama) (rounds : List (Http.Network × Time)) :
    TellsAs (o.polled rounds) (o.polled (o.updates rounds)) ∧
      (∀ (o : Ollama) net now n, (o.refresh net now).2 = .updated n ↔
        ∃ response models, Http.fetch net o.listingUrl none = .ok response ∧
          Http.isSuccess response.status = true ∧ ListedModel.listing? response.body = some models ∧
          models.length = n) ∧
      ∀ (o : Ollama) net now response items, Http.fetch net o.listingUrl none = .ok response →
        ListedModel.items? response.body = some items →
        (∃ item ∈ items, ListedModel.ofDatum? item = none) → TellsAs (o.refresh net now).1 o := by
  refine ⟨((Alike.refl o).polled_updates rounds).tellsAs, fun o net now n => refresh_eq_updated_iff, ?_⟩
  rintro o net now response items fetched listed ⟨item, hitem, unreadable⟩
  cases returned : (o.refresh net now).2 with
  | stale reason => exact ((Alike.refl o).missed returned).tellsAs
  | updated n =>
    obtain ⟨response', models, fetched', _, read, _⟩ := refresh_eq_updated_iff.mp returned
    obtain rfl : response = response' := Except.ok.inj (fetched.symm.trans fetched')
    have each := (ListedModel.listing?_isSome_iff listed).mp (Option.isSome_of_eq_some read) item hitem
    rw [unreadable] at each
    cases each

/-- After a listing, a connection that fails, a response that says that it failed and a listing with one
model that has no name: the first listing is still in effect, of the time at which it came. -/
theorem first_listing_of_four_polls :
    let o : Ollama := .ofAddress "p" "http://h" .standard false
    let listing := "\x7b\"models\":[\x7b\"name\":\"coder\",\"size_vram\":8589934592\x7d]\x7d"
    let nameless := "\x7b\"models\":[\x7b\"name\":\"small\"\x7d,\x7b\"size_vram\":1048576\x7d]\x7d"
    let rounds : List (Http.Network × Time) := [(fun _ => some ⟨200, listing⟩, 0), (.down, seconds 5),
      (fun _ => some ⟨503, "\x7b\x7d"⟩, seconds 10), (fun _ => some ⟨200, nameless⟩, seconds 15)]
    (o.polled rounds).refreshedAt = some 0 ∧
      (o.polled rounds).capacity "small" = ⟨true, .memory 16384 8192 0 ["coder"] none⟩ := by
  intro o listing nameless rounds
  have told : (o.polled (o.updates rounds)).refreshedAt = some 0 ∧
      (o.polled (o.updates rounds)).capacity "small" = ⟨true, .memory 16384 8192 0 ["coder"] none⟩ := by
    decide +kernel
  obtain ⟨tells, _⟩ := failed_polls_leave_no_trace o rounds
  exact ⟨tells.refreshedAt.trans told.1, (tells.capacity "small").trans told.2⟩

end Ollama

end InferenceDispatch
