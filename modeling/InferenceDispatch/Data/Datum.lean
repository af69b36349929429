import InferenceDispatch.Number.Double
import InferenceDispatch.Number.Whole

namespace InferenceDispatch

inductive Datum where
  | null
  | bool (b : Bool)
  | integer (n : Int)
  | real (x : Double)
  | text (s : String)
  | list (items : List Datum)
  | fields (entries : List (String × Datum))
  | date (text : String)
  /-- A value that is written correctly but stands for nothing. It may only be passed over. -/
  | unreadable
deriving Inhabited

abbrev Record := List (String × Datum)

namespace Datum

def count (n : Nat) : Datum := integer n

def maybe {α : Type} (f : α → Datum) : Option α → Datum
  | some a => f a
  | none => null

def each {α : Type} (f : α → Datum) (l : List α) : Datum := list (l.map f)

def asText? : Datum → Option String
  | text s => some s
  | _ => none

def asBool? : Datum → Option Bool
  | bool b => some b
  | _ => none

def asCount? : Datum → Option Nat
  | integer n => if 0 ≤ n ∧ n < (Whole.wordBound : Int) then some n.toNat else none
  | _ => none

/-- A double; whole numbers are taken for the double nearest to them. -/
def asReal? : Datum → Option Double
  | real x => some x
  | integer n => some (.ofInt n)
  | _ => none

def asList? {α : Type} (item : Datum → Option α) : Datum → Option (List α)
  | list items => items.mapM item
  | _ => none

def isNull : Datum → Bool
  | null => true
  | _ => false

def isVoid : Datum → Bool
  | fields entries => entries.isEmpty
  | list items => items.isEmpty
  | _ => false

/-- A choice by name: the name alone, or as the only field of a record, with nothing to say. -/
def asChoice? {α : Type} (nothing : Datum → Bool) (named : String → Option α) : Datum → Option α
  | text s => named s
  | fields [(s, d)] => if nothing d then named s else none
  | _ => none

/-- Texts by name. A date counts as a record of one field. -/
def asTexts? : Datum → Option (List (String × String))
  | fields entries => entries.mapM fun e => e.2.asText?.map fun t => (e.1, t)
  | date t => some [("$__toml_private_datetime", t)]
  | _ => none

/-- The known fields of a record, which may be written as a list of its fields in order. A known field that
stands twice spoils the record. A date has none; `surplus` says whether a list may go on beyond the known
fields. -/
def asRecord? (known : List String) (surplus : Bool) : Datum → Option Record
  | fields entries =>
    let found := entries.filter fun e => e.1 ∈ known
    if (found.map Prod.fst).Nodup then some found else none
  | list items => if surplus || items.length ≤ known.length then some (known.zip items) else none
  | date _ => some []
  | _ => none

end Datum

namespace Record

def find? (r : Record) (name : String) : Option Datum := r.lookup name

def required {α : Type} (r : Record) (name : String) (read : Datum → Option α) : Option α :=
  (r.find? name).bind read

def defaulted {α : Type} (r : Record) (name : String) (read : Datum → Option α) (absent : α) :
    Option α :=
  match r.find? name with
  | some d => read d
  | none => some absent

def optional {α : Type} (r : Record) (name : String) (read : Datum → Option α) :
    Option (Option α) :=
  match r.find? name with
  | none | some .null => some none
  | some d => (read d).map some

end Record

end InferenceDispatch
