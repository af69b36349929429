import InferenceDispatch.Data.Datum

namespace InferenceDispatch.Toml

/-- How a table came to be. A header may open a table only once, and a dotted key may go on only in tables that
no header has opened. -/
inductive Origin where
  | header
  | headerPath
  | dottedKey
deriving DecidableEq, Repr

inductive Node where
  | value (d : Datum)
  | table (origin : Origin) (entries : List (String × Node))
  /-- A list of tables; later lines speak of its last one. -/
  | rows (tables : List Node)

namespace Node

def root : Node := table .header []

def put (k : String) (n : Node) (entries : List (String × Node)) : List (String × Node) :=
  entries.filter (fun e => e.1 ≠ k) ++ [(k, n)]

/-- The table that a key leads to from the node it has, and how that node is put together again. A
missing table is made. -/
def enter? (dotted : Bool) : Option Node → Option (Node × (Node → Node))
  | none => some (table (if dotted then .dottedKey else .headerPath) [], id)
  | some (table .header entries) => if dotted then none else some (table .header entries, id)
  | some (table origin entries) => some (table origin entries, id)
  | some (rows tables) => tables.getLast?.map fun t => (t, fun t => rows (tables.dropLast ++ [t]))
  | some (value _) => none

def update? (dotted : Bool) (f : Origin → List (String × Node) → Option Node) :
    List String → Node → Option Node
  | [], table origin entries => f origin entries
  | k :: ks, table origin entries => do
    let (child, back) ← enter? dotted (entries.lookup k)
    let child ← update? dotted f ks child
    pure (table origin (put k (back child) entries))
  | _, _ => none

def assign? (way : List String) (key : String) (d : Datum) : Node → Option Node :=
  update? true (fun origin entries =>
    if (origin = .dottedKey ↔ way = []) ∨ (entries.lookup key).isSome then none
    else some (table origin (put key (value d) entries))) way

def openTable? (way : List String) (key : String) : Node → Option Node :=
  update? false (fun origin entries =>
    match entries.lookup key with
    | none => some (table origin (put key root entries))
    | some (table .headerPath inner) => some (table origin (put key (table .header inner) entries))
    | some _ => none) way

def openRow? (way : List String) (key : String) : Node → Option Node :=
  update? false (fun origin entries =>
    match entries.lookup key with
    | none => some (table origin (put key (rows [root]) entries))
    | some (rows tables) => some (table origin (put key (rows (tables ++ [root])) entries))
    | some _ => none) way

mutual

def toDatum : Node → Datum
  | value d => d
  | table _ entries => .fields (entriesToData entries)
  | rows tables => .list (rowsToData tables)

def entriesToData : List (String × Node) → List (String × Datum)
  | [] => []
  | (k, n) :: r => (k, n.toDatum) :: entriesToData r

def rowsToData : List Node → List Datum
  | [] => []
  | n :: r => n.toDatum :: rowsToData r

end

end Node

end InferenceDispatch.Toml
