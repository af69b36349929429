import InferenceDispatch.Data.Toml.Date
import InferenceDispatch.Data.Toml.Number
import InferenceDispatch.Data.Toml.Text
import InferenceDispatch.Data.Toml.Tree

namespace InferenceDispatch.Toml

mutual

/-- A value with nesting of at most `depth`, from its first character on. `bound` exceeds the length
of the text. -/
def value? : (bound depth : Nat) → List Char → Option (Datum × List Char)
  | 0, _, _ => none
  | bound + 1, depth, s =>
    match s with
    | '[' :: r =>
      if depth = 0 then none
      else (items? bound (depth - 1) r).map fun (items, r) => (.list items, r)
    | '\x7b' :: r =>
      if depth = 0 then none
      else
        match skipSpace r with
        | '\x7d' :: r => some (.fields [], r)
        | r => (pairs? bound (depth - 1) Node.root r).map fun (t, r) => (t.toDatum, r)
    | 't' :: 'r' :: 'u' :: 'e' :: r => some (.bool true, r)
    | 'f' :: 'a' :: 'l' :: 's' :: 'e' :: r => some (.bool false, r)
    | c :: r =>
      if c = '"' ∨ c = '\x27' then (string? (c :: r)).map fun (t, r) => (.text t, r)
      else
        match dateTime? (c :: r) with
        | some (t, r) => some (.date t, r)
        | none => number? (c :: r)
    | [] => none

def items? : (bound depth : Nat) → List Char → Option (List Datum × List Char)
  | 0, _, _ => none
  | bound + 1, depth, s => do
    match ← skipLines? false s with
    | ']' :: r => pure ([], r)
    | s =>
      let (v, r) ← value? bound depth s
      match ← skipLines? false r with
      | ']' :: r => pure ([v], r)
      | ',' :: r =>
        let (vs, r) ← items? bound depth r
        pure (v :: vs, r)
      | _ => none

def pairs? : (bound depth : Nat) → Node → List Char → Option (Node × List Char)
  | 0, _, _, _ => none
  | bound + 1, depth, t, s => do
    let ((way, key), r) ← key? s
    match r with
    | '=' :: r =>
      let (v, r) ← value? bound depth (skipSpace r)
      let t ← t.assign? way key v
      match skipSpace r with
      | '\x7d' :: r => pure (t, r)
      | ',' :: r => pairs? bound depth t r
      | _ => none
    | _ => none

end

/-- A document in the course of reading: its tables, and the keys to the table of the last
header. -/
structure Progress where
  root : Node
  header : List String

namespace Progress

def assignment? (p : Progress) (s : List Char) : Option (Progress × List Char) := do
  let ((way, key), r) ← key? s
  let r ← match r with
    | '=' :: r => some r
    | _ => none
  let (v, r) ← value? (s.length + 1) maxDepth (skipSpace r)
  let r ← finishLine? r
  let root ← p.root.update? false (fun origin entries =>
    (Node.table origin entries).assign? way key v) p.header
  pure ({ p with root }, r)

def header? (p : Progress) (s : List Char) : Option (Progress × List Char) := do
  match s with
  | '[' :: r =>
    match ← key? r with
    | ((way, key), ']' :: ']' :: r) =>
      pure (⟨← p.root.openRow? way key, way ++ [key]⟩, ← finishLine? r)
    | _ => none
  | r =>
    match ← key? r with
    | ((way, key), ']' :: r) => pure (⟨← p.root.openTable? way key, way ++ [key]⟩, ← finishLine? r)
    | _ => none

/-- Reads the lines of a document. Every step takes at least one character, so `bound` is never
used up if it exceeds the length of the text. -/
def lines? : (bound : Nat) → Progress → List Char → Option Progress
  | 0, _, _ => none
  | bound + 1, p, s =>
    match skipSpace s with
    | [] => some p
    | '[' :: r => do
      let (p, r) ← p.header? r
      lines? bound p r
    | c :: r =>
      if c = '#' ∨ c = '\n' ∨ c = '\r' then (finishLine? (c :: r)).bind (lines? bound p)
      else do
        let (p, r) ← p.assignment? (c :: r)
        lines? bound p r

end Progress

def read? (s : String) : Option Datum :=
  let body := match s.toList with
    | '\ufeff' :: r => r
    | r => r
  (Progress.lines? (body.length + 1) ⟨Node.root, []⟩ body).map fun p => p.root.toDatum

end InferenceDispatch.Toml
