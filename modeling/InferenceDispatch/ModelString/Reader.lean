import InferenceDispatch.ModelString.Basic
import InferenceDispatch.Text.Pieces

namespace InferenceDispatch.ModelString

abbrev Pair := List Char × List Char

def readPair (s : List Char) : Except Fault Pair :=
  match Text.cutAt? '=' s with
  | some (key, value) =>
    if key ≠ [] ∧ value ≠ [] ∧ '=' ∉ value then .ok (key, value)
    else .error (.notPair (String.ofList s))
  | none => .error (.notPair (String.ofList s))

/-- Reads the fragments of a policy body, given the pair before them, which they may continue. -/
def readFragments (last : Option Pair) : List (List Char) → Except Fault (List Pair)
  | [] => .ok last.toList
  | f :: rest =>
    if '=' ∈ f then do
      let p ← readPair f
      let ps ← readFragments (some p) rest
      pure (last.toList ++ ps)
    else
      match last, f with
      | some (key, value), _ :: _ => readFragments (some (key, value ++ '_' :: f)) rest
      | _, _ => .error (.dangling (String.ofList f))

def readSegment (s : List Char) : Except Fault (List (Bool × Pair)) :=
  if s = [] then .error .emptySegment
  else
    match Text.after? "policy_".toList s with
    | some body => do
      let ps ← readFragments none (Text.pieces '_' body)
      pure (ps.map fun p => (true, p))
    | none => do
      let p ← readPair s
      pure [(decide (String.ofList p.1 ∈ policyKeys), p)]

def isFiniteNumeral (s : String) : Bool := (readDouble? s.toList).any Double.isFinite

/-- The value to keep for a policy key; none if the key is unknown or the value unfit for it. -/
def acceptedValue? (key value : String) : Option String :=
  if key = "default" then if value = "true" ∨ value = "false" then some value else none
  else if key = "privacy" then (PrivacyTier.read? value).map PrivacyTier.name
  else if key ∈ thresholdKeys ∧ isFiniteNumeral value then some value
  else none

/-- Stores a pair where it belongs. A later pair of the same key replaces an earlier one. -/
def storePair (r : Request) : Bool × Pair → Except Fault Request
  | (true, key, value) =>
    let key := String.ofList key
    let value := String.ofList value
    match acceptedValue? key value with
    | some v => .ok { r with policy := r.policy.insert key v }
    | none => .error (.invalidValue key value)
  | (false, key, value) =>
    let key := String.ofList key
    let value := String.ofList value
    .ok (if key ∈ keptExtras then { r with extra := r.extra.insert key value } else r)

def storeSegment (r : Request) (s : List Char) : Except Fault Request := do
  (← readSegment s).foldlM storePair r

def checkOverrides (r : Request) : Except Fault Request :=
  if r.policy.get? "default" = some "false" ∧ r.overrides = [] then .error .missingOverride
  else .ok r

def Request.ofVersion (version : String) : Request :=
  { version, policy := SortedMap.empty.insert "default" "true", extra := SortedMap.empty }

/-- Reads a model string, with blanks around it. Behind the stem, doubled underscores separate a version and
segments. -/
def read (s : String) : Except Fault Request :=
  match Text.after? stem.toList (Text.trimChars s.toList) with
  | none => .error .missingStem
  | some rest =>
    match Text.piecesAtDouble '_' rest with
    | [] | [] :: _ => .error .missingVersion
    | version :: segments => do
      checkOverrides (← segments.foldlM storeSegment (Request.ofVersion (String.ofList version)))

end InferenceDispatch.ModelString
