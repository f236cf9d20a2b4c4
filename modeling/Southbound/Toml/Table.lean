import Southbound.Datum

/-!
# Tables under construction

A configuration document builds its tables bit by bit: by assignments with dotted keys, by table
headers and by headers that append to a list of tables.  What may still be added to a table depends
on how it came about, so a table under construction carries its `Origin`; `Table.assign`,
`Table.define` and `Table.append` are the three ways to add, and refuse what the format forbids.
`Table.toDatum` forgets the origins when the document is complete.
-/

namespace Southbound.Toml

/-- How a table came about. -/
inductive Origin
  /-- By a header of its own, or as the whole document. -/
  | defined
  /-- On the way to a table with a header. -/
  | implied
  /-- On the way to an assignment with a dotted key. -/
  | dotted
deriving DecidableEq

/-- What a key of a table under construction stands for. -/
inductive Node
  /-- A finished value, inline tables among them. -/
  | value (d : Datum)
  /-- A table that may still grow. -/
  | table (origin : Origin) (entries : List (String × Node))
  /-- A list of tables, of which the last may still grow. -/
  | tables (items : List (List (String × Node)))

/-- The entries of a table under construction. -/
abbrev Table := List (String × Node)

namespace Table

/-- Replaces what an existing key stands for. -/
def replace (t : Table) (key : String) (node : Node) : Table :=
  t.map fun (k, old) => if k = key then (k, node) else (k, old)

/-- Edits the table at a path.  Tables that are missing on the way are made, with the given
`origin`; of a list of tables the last is entered.  Through a dotted key no table with a header of
its own can be entered. -/
def edit (origin : Origin) (change : Origin → Table → Option Table) :
    (path : List String) → Origin → Table → Option Table
  | [], own, t => change own t
  | key :: path, _, t =>
    match t.lookup key with
    | none => do
      let inner ← edit origin change path origin []
      some (t ++ [(key, .table origin inner)])
    | some (.value _) => none
    | some (.table own entries) =>
      if origin = .dotted ∧ own = .defined then none
      else do
        let inner ← edit origin change path own entries
        some (t.replace key (.table own inner))
    | some (.tables items) => do
      let last ← items.getLast?
      let inner ← edit origin change path .defined last
      some (t.replace key (.tables (items.dropLast ++ [inner])))

/-- Gives a new key a value in the table that a dotted path leads to. -/
def assign (t : Table) (own : Origin) (path : List String) (key : String) (d : Datum) :
    Option Table :=
  edit .dotted (fun own t =>
    if decide (own = .dotted) = path.isEmpty then none
    else if (t.lookup key).isSome then none
    else some (t ++ [(key, .value d)])) path own t

/-- Opens the table that a header names; it must be new or known only as being on the way. -/
def define (t : Table) (path : List String) (key : String) : Option Table :=
  edit .implied (fun _ t =>
    match t.lookup key with
    | none => some (t ++ [(key, .table .defined [])])
    | some (.table .implied entries) => some (t.replace key (.table .defined entries))
    | some _ => none) path .defined t

/-- Opens a further table in the list of tables that a header names. -/
def append (t : Table) (path : List String) (key : String) : Option Table :=
  edit .implied (fun _ t =>
    match t.lookup key with
    | none => some (t ++ [(key, .tables [[]])])
    | some (.tables items) => some (t.replace key (.tables (items ++ [[]])))
    | some _ => none) path .defined t

end Table

/-! ## Finished tables -/

mutual

/-- The datum that a node has become. -/
def Node.toDatum : Node → Datum
  | .value d => d
  | .table _ entries => .table (entriesToData entries)
  | .tables items => .list (itemsToData items)

/-- The data that the entries have become. -/
def entriesToData : List (String × Node) → List (String × Datum)
  | [] => []
  | (key, node) :: rest => (key, node.toDatum) :: entriesToData rest

/-- The data that the tables of a list have become. -/
def itemsToData : List (List (String × Node)) → List Datum
  | [] => []
  | entries :: rest => .table (entriesToData entries) :: itemsToData rest

end

/-- The datum that a table has become. -/
def Table.toDatum (t : Table) : Datum := .table (entriesToData t)

end Southbound.Toml
