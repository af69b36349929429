import InferenceDispatch.Proofs.Lookup
import InferenceDispatch.Telemetry.Azure

namespace InferenceDispatch

theorem Http.Headers.first?_eq (h : Http.Headers) (name : String) : h.first? name =
    (h.find? fun e => e.1.toList.map Char.toLower = name.toList.map Char.toLower).map Prod.snd := by
  have lower (s : String) : s.toLower.toList = s.toList.map Char.toLower := String.toList_map
  have same (s : String) : s.toLower = name.toLower ↔
      s.toList.map Char.toLower = name.toList.map Char.toLower := by
    rw [← String.toList_inj, lower, lower]
  simp only [first?, same]

namespace Azure

/-- What is learned of a deployment: the headers of a response, or counts given as such. -/
inductive Note where
  | headers (d : Deployment) (h : Http.Headers)
  | counts (d : Deployment) (requests tokens : Option Nat)

namespace Note

def deployment : Note → Deployment
  | headers d _ | counts d _ _ => d

def requests : Note → Option Nat
  | headers _ h => readCounter h requestsHeader
  | counts _ requests _ => requests

def tokens : Note → Option Nat
  | headers _ h => readCounter h tokensHeader
  | counts _ _ tokens => tokens

def isHeard : Note → Bool
  | headers _ h => (readCounter h requestsHeader).isSome || (readCounter h tokensHeader).isSome
  | counts .. => true

theorem silent {n : Note} (h : n.isHeard = false) : n.requests = none ∧ n.tokens = none := by
  cases n with
  | headers d hs => simpa [isHeard, requests, tokens] using h
  | counts => cases h

end Note

def note (a : Azure) (now : Time) : Note → Azure
  | .headers d h => a.observeHeaders d h now
  | .counts d requests tokens => a.observe d requests tokens now

def noteAll (a : Azure) (notes : List (Time × Note)) : Azure :=
  notes.foldl (fun a n => a.note n.1 n.2) a

/-- The last count that the notes give of a deployment. -/
def lastGiven (count : Note → Option Nat) (d : Deployment) (notes : List (Time × Note)) : Option Nat :=
  (((notes.map Prod.snd).filter fun n => n.deployment = d).filterMap count).getLast?

def lastHeard (d : Deployment) (notes : List (Time × Note)) : Option Time :=
  (notes.filter fun n => n.2.deployment = d ∧ n.2.isHeard).getLast?.map Prod.fst

/-- The last count of requests, or of tokens, that was observed of a deployment is at the threshold or
below it. -/
def Exhausted (threshold : Nat) (d : Deployment) (notes : List (Time × Note)) : Prop :=
  (∃ n, lastGiven Note.requests d notes = some n ∧ n ≤ threshold) ∨
    ∃ n, lastGiven Note.tokens d notes = some n ∧ n ≤ threshold

variable {a : Azure} {d : Deployment}

def noted (a : Azure) (now : Time) (n : Note) : RateLimits :=
  let last := a.limits.get? n.deployment
  let requests := n.requests.or (last.bind RateLimits.requests)
  let tokens := n.tokens.or (last.bind RateLimits.tokens)
  ⟨requests, tokens, !a.isExhausted requests tokens, now⟩

theorem note_of_silent {n : Note} (h : n.isHeard = false) (a : Azure) (now : Time) : a.note now n = a := by
  cases n with
  | counts => cases h
  | headers d hs =>
    obtain ⟨requests, tokens⟩ := Note.silent h
    simp only [Note.requests, Note.tokens] at requests tokens
    simp only [note, observeHeaders, requests, tokens]

theorem note_of_heard {n : Note} (h : n.isHeard = true) (a : Azure) (now : Time) :
    a.note now n = { a with limits := a.limits.insert n.deployment (a.noted now n) } := by
  cases n with
  | counts => rfl
  | headers d hs =>
    simp only [note, observeHeaders]
    split
    next requests tokens => simp [Note.isHeard, requests, tokens] at h
    next => rfl

theorem settings_note (a : Azure) (now : Time) (n : Note) :
    (a.note now n).threshold = a.threshold ∧ (a.note now n).deployments = a.deployments := by
  cases h : n.isHeard with
  | true =>
    rw [note_of_heard h]
    exact ⟨rfl, rfl⟩
  | false =>
    rw [note_of_silent h]
    exact ⟨rfl, rfl⟩

theorem settings_noteAll (a : Azure) (notes : List (Time × Note)) :
    (a.noteAll notes).threshold = a.threshold ∧ (a.noteAll notes).deployments = a.deployments := by
  induction notes generalizing a with
  | nil => exact ⟨rfl, rfl⟩
  | cons n notes ih =>
    obtain ⟨ht, hd⟩ := ih (a.note n.1 n.2)
    obtain ⟨ht', hd'⟩ := settings_note a n.1 n.2
    exact ⟨ht.trans ht', hd.trans hd'⟩

theorem get?_note_of_other {n : Note} (h : ¬(n.deployment = d ∧ n.isHeard = true)) (a : Azure)
    (now : Time) : (a.note now n).limits.get? d = a.limits.get? d := by
  cases heard : n.isHeard with
  | false => rw [note_of_silent heard]
  | true =>
    rw [note_of_heard heard]
    exact (Table.get?_insert ..).trans (if_neg fun hd => h ⟨hd.symm, heard⟩)

theorem get?_note_of_heard {n : Note} (h : n.isHeard = true) (a : Azure) (now : Time) :
    (a.note now n).limits.get? n.deployment = some (a.noted now n) := by
  rw [note_of_heard h]
  exact (Table.get?_insert ..).trans (if_pos rfl)

theorem lastGiven_concat (count : Note → Option Nat) (d : Deployment) (notes : List (Time × Note))
    (n : Time × Note) : lastGiven count d (notes ++ [n]) =
      (if n.2.deployment = d then count n.2 else none).or (lastGiven count d notes) := by
  simp only [lastGiven, List.map_append, List.filter_append, List.filterMap_append, List.getLast?_append]
  by_cases hd : n.2.deployment = d
  · cases hc : count n.2 <;> simp [hd, hc]
  · simp [hd]

theorem lastHeard_concat (d : Deployment) (notes : List (Time × Note)) (n : Time × Note) :
    lastHeard d (notes ++ [n]) =
      (if n.2.deployment = d ∧ n.2.isHeard = true then some n.1 else none).or (lastHeard d notes) := by
  simp only [lastHeard, List.filter_append, List.getLast?_append]
  by_cases h : n.2.deployment = d ∧ n.2.isHeard = true
  · simp [h]
  · simp [h]

theorem lastGiven_of_unheard {count : Note → Option Nat} {notes : List (Time × Note)}
    (silent : ∀ n : Note, n.isHeard = false → count n = none) (unheard : lastHeard d notes = none) :
    lastGiven count d notes = none := by
  have none_heard : ∀ n ∈ notes, n.2.deployment = d → n.2.isHeard = false := by
    simpa [lastHeard] using unheard
  rw [lastGiven, List.getLast?_eq_none_iff, List.filterMap_eq_nil_iff]
  intro n hn
  obtain ⟨hn, hd⟩ := List.mem_filter.mp hn
  obtain ⟨m, hm, rfl⟩ := List.mem_map.mp hn
  exact silent m.2 (none_heard m hm (of_decide_eq_true hd))

theorem given_of_unheard {notes : List (Time × Note)} (unheard : lastHeard d notes = none) :
    lastGiven Note.requests d notes = none ∧ lastGiven Note.tokens d notes = none :=
  ⟨lastGiven_of_unheard (fun _ h => (Note.silent h).1) unheard,
    lastGiven_of_unheard (fun _ h => (Note.silent h).2) unheard⟩

/-- Where nothing was kept of a deployment before, the counts that were given last are kept, together with
the time of the last note that was heard. -/
theorem get?_noteAll (unobserved : a.limits.get? d = none) (notes : List (Time × Note)) :
    (a.noteAll notes).limits.get? d = (lastHeard d notes).map fun heardAt =>
      let requests := lastGiven Note.requests d notes
      let tokens := lastGiven Note.tokens d notes
      ⟨requests, tokens, !a.isExhausted requests tokens, heardAt⟩ := by
  induction notes using List.reverseRecOn with
  | nil => exact unobserved
  | append_singleton notes n ih =>
    have last : a.noteAll (notes ++ [n]) = (a.noteAll notes).note n.1 n.2 := List.foldl_concat ..
    rw [last, lastGiven_concat, lastGiven_concat, lastHeard_concat]
    by_cases h : n.2.deployment = d ∧ n.2.isHeard = true
    · obtain ⟨rfl, heard⟩ := h
      have kept : ((a.noteAll notes).limits.get? n.2.deployment).bind RateLimits.requests =
            lastGiven Note.requests n.2.deployment notes ∧
          ((a.noteAll notes).limits.get? n.2.deployment).bind RateLimits.tokens =
            lastGiven Note.tokens n.2.deployment notes := by
        rw [ih]
        cases ht : lastHeard n.2.deployment notes with
        | some => exact ⟨rfl, rfl⟩
        | none =>
          obtain ⟨requests, tokens⟩ := given_of_unheard ht
          exact ⟨requests.symm, tokens.symm⟩
      have threshold := (a.settings_noteAll notes).1
      rw [get?_note_of_heard heard, noted, kept.1, kept.2]
      simp [heard, isExhausted, threshold]
    · -- nothing is given of this deployment
      rw [get?_note_of_other h, ih, if_neg h, Option.none_or]
      by_cases hd : n.2.deployment = d
      · obtain ⟨requests, tokens⟩ := Note.silent (eq_false_of_ne_true fun heard => h ⟨hd, heard⟩)
        simp [requests, tokens]
      · simp [hd]

theorem isExhausted_iff (a : Azure) (requests tokens : Option Nat) : a.isExhausted requests tokens = true ↔
    (∃ n, requests = some n ∧ n ≤ a.threshold) ∨ ∃ n, tokens = some n ∧ n ≤ a.threshold := by
  simp [isExhausted, Option.any_eq_true]

theorem capacity_noteAll (unobserved : a.limits.get? d = none) (notes : List (Time × Note)) :
    ((a.noteAll notes).capacity d).hasCapacity = false ↔ Exhausted a.threshold d notes := by
  rw [capacity, get?_noteAll unobserved, Exhausted, ← isExhausted_iff]
  cases unheard : lastHeard d notes with
  | some => simp
  | none =>
    obtain ⟨requests, tokens⟩ := given_of_unheard unheard
    rw [requests, tokens]
    simp [isExhausted]

theorem telemetry_noteAll (unobserved : a.limits.get? d = none) (notes : List (Time × Note)) :
    ((a.noteAll notes).capacity d).telemetry = .rateLimits (lastGiven Note.requests d notes)
      (lastGiven Note.tokens d notes) (lastHeard d notes) := by
  rw [capacity, telemetry, get?_noteAll unobserved]
  cases unheard : lastHeard d notes with
  | some => rfl
  | none =>
    obtain ⟨requests, tokens⟩ := given_of_unheard unheard
    rw [requests, tokens]
    rfl

theorem capacity_note_of_other {n : Note} (h : n.deployment ≠ d) (a : Azure) (now : Time) :
    (a.note now n).capacity d = a.capacity d := by
  have kept := get?_note_of_other (fun both => h both.1) a now
  rw [capacity, capacity, telemetry, telemetry, kept]

theorem readCounter_eq_some_iff {h : Http.Headers} {name : String} {n : Nat} :
    readCounter h name = some n ↔ ∃ v, h.first? name = some v ∧ Http.isReadable v = true ∧
      Whole.SpellsWord (Text.trimChars v.toList) n := by
  simp only [readCounter, Http.Headers.text?, Option.bind_eq_some_iff, Option.map_eq_some_iff,
    Option.filter_eq_some_iff, Whole.readWord?_eq_some_iff]
  constructor
  · rintro ⟨_, ⟨v, ⟨first, readable⟩, rfl⟩, spells⟩
    rw [Text.trim, String.toList_ofList] at spells
    exact ⟨v, first, readable, spells⟩
  · rintro ⟨v, first, readable, spells⟩
    refine ⟨_, ⟨v, ⟨first, readable⟩, rfl⟩, ?_⟩
    rw [Text.trim, String.toList_ofList]
    exact spells

/-- Whatever is noted of deployments, and in whatever order: of each one the counts are told that were given
last, and when something was last heard of it; it has no capacity if one of these counts is at the threshold
or below it, and has capacity as long as nothing was heard. Headers without a readable count change nothing,
and no note changes what is told of another deployment. A header is readable as a count if its first value
is, blanks aside, a count of 64 bits in digits. -/
theorem counters_are_last_given (threshold : Nat) (deployments : Table String Deployment)
    (notes : List (Time × Note)) (d : Deployment) :
    let a := (⟨threshold, deployments, .empty⟩ : Azure).noteAll notes
    (a.capacity d).telemetry = .rateLimits (lastGiven Note.requests d notes)
        (lastGiven Note.tokens d notes) (lastHeard d notes) ∧
      ((a.capacity d).hasCapacity = false ↔ Exhausted threshold d notes) ∧
      ((∀ n ∈ notes, n.2.deployment = d → n.2.isHeard = false) →
        a.capacity d = ⟨true, .rateLimits none none none⟩) ∧
      (∀ now n, n.isHeard = false → a.note now n = a) ∧
      (∀ now n, n.deployment ≠ d → (a.note now n).capacity d = a.capacity d) ∧
      ∀ h name n, readCounter h name = some n ↔ ∃ v, h.first? name = some v ∧
        Http.isReadable v = true ∧ Whole.SpellsWord (Text.trimChars v.toList) n := by
  intro a
  have unobserved : (⟨threshold, deployments, .empty⟩ : Azure).limits.get? d = none := rfl
  refine ⟨telemetry_noteAll unobserved notes, capacity_noteAll unobserved notes, ?_,
    fun now n silent => note_of_silent silent a now,
    fun now n other => capacity_note_of_other other a now, fun h name n => readCounter_eq_some_iff⟩
  intro silent
  have unheard : lastHeard d notes = none := by simpa [lastHeard] using silent
  have absent : a.limits.get? d = none := by rw [get?_noteAll unobserved, unheard, Option.map_none]
  rw [capacity, telemetry, absent]
  rfl

/-- Of two values of a header the first counts, whatever the case of its name; a value that is no count is
passed over, and so is a full deployment of the same name at another provider. -/
theorem unreadable_headers_passed_over :
    let east : Deployment := ⟨"east", "gpt"⟩
    let first : Http.Headers := [(requestsHeader, "100"), (tokensHeader, "5000")]
    let second : Http.Headers :=
      [("X-RateLimit-Remaining-Requests", " +11 "), (requestsHeader, "0"), (tokensHeader, "soon")]
    let third : Http.Headers := [(tokensHeader, "+")]
    let notes : List (Time × Note) := [(1, .headers east first), (2, .headers east second),
      (3, .headers east third), (4, .counts ⟨"west", "gpt"⟩ (some 0) none)]
    ((⟨10, .empty, .empty⟩ : Azure).noteAll notes).capacity east =
      ⟨true, .rateLimits (some 11) (some 5000) (some 2)⟩ := by
  intro east first second third notes
  have read : (readCounter first requestsHeader = some 100 ∧ readCounter first tokensHeader = some 5000) ∧
      (readCounter second requestsHeader = some 11 ∧ readCounter second tokensHeader = none) ∧
      readCounter third requestsHeader = none ∧ readCounter third tokensHeader = none := by
    simp only [readCounter, Http.Headers.text?, Http.Headers.first?_eq]
    decide +kernel
  obtain ⟨⟨requests, tokens⟩, ⟨requests', tokens'⟩, requests'', tokens''⟩ := read
  have lastRequests : lastGiven Note.requests east notes = some 11 := by
    simp [lastGiven, notes, east, Note.deployment, Note.requests, requests, requests', requests'']
  have lastTokens : lastGiven Note.tokens east notes = some 5000 := by
    simp [lastGiven, notes, east, Note.deployment, Note.tokens, tokens, tokens', tokens'']
  have heard : lastHeard east notes = some 2 := by
    simp [lastHeard, notes, east, Note.deployment, Note.isHeard, requests, requests', requests'', tokens'']
  obtain ⟨told, full, _⟩ := counters_are_last_given 10 .empty notes east
  rw [lastRequests, lastTokens, heard] at told
  have room : ¬Exhausted 10 east notes := by simp [Exhausted, lastRequests, lastTokens]
  exact congrArg₂ CapacityReport.mk (eq_true_of_ne_false fun none_left => room (full.mp none_left)) told

end Azure

end InferenceDispatch
