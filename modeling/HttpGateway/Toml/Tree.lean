import HttpGateway.Config.Setting

/-!
# Trees of tables

A document is a tree of tables that grows with every statement. A table is made by a header, or
implied by the header of a table inside it, or by a dotted key, and what may be added to it
depends on that: no header opens a table twice, a dotted key adds only to tables made by dotted
keys, and no key is set twice. A value in a document is sealed: nothing is added to an inline
table or to an array of values.
-/

namespace HttpGateway.Toml

/-- How a table came about. -/
inductive Origin
  /-- A header opened it. -/
  | header
  /-- The header of a table inside it implied it. -/
  | implied
  /-- A dotted key made it. -/
  | dotted
deriving DecidableEq, Repr

/-- What is found under a key. -/
inductive Node
  /-- A value, which is sealed. -/
  | leaf (value : Setting)
  /-- A table. -/
  | table (origin : Origin) (entries : List (String × Node))
  /-- An array of tables; the last is the one that statements add to. -/
  | tables (elements : List (List (String × Node)))

/-- The entries of a table. -/
abbrev Entries : Type := List (String × Node)

namespace Entries

/-- Entries with the node under a key, or its absence, replaced by what `f` makes of it. -/
def modify (key : String) (f : Option Node → Option Node) : Entries → Option Entries
  | [] => (f none).map fun node => [(key, node)]
  | (name, node) :: rest =>
    if name = key then (f (some node)).map fun node => (name, node) :: rest
    else (modify key f rest).map ((name, node) :: ·)

/-- A list with its last element replaced by what `f` makes of it. -/
def modifyLast {α : Type} (f : α → Option α) : List α → Option (List α)
  | [] => none
  | [last] => (f last).map ([·])
  | first :: rest => (modifyLast f rest).map (first :: ·)

/-- Set a key in a table. The table a dotted key ends in has to be made by dotted keys. -/
def assign (value : Setting) : List String → Entries → Option Entries
  | [] => fun _ => none
  | [key] => modify key fun
    | none => some (.leaf value)
    | some _ => none
  | key :: next :: rest => modify key fun
    | none => (assign value (next :: rest) []).map (.table .dotted)
    | some (.table origin entries) =>
      if origin = .header ∨ (rest.isEmpty ∧ origin ≠ .dotted) then none
      else (assign value (next :: rest) entries).map (.table origin)
    | some (.tables elements) =>
      if rest.isEmpty then none
      else (modifyLast (assign value (next :: rest)) elements).map .tables
    | some (.leaf _) => none

/-- Carry out `f` on the entries of the table with a path, making the tables before it where
they are missing. -/
def descend (f : String → Entries → Option Entries) : List String → Entries → Option Entries
  | [] => fun _ => none
  | [key] => f key
  | key :: next :: rest => modify key fun
    | none => (descend f (next :: rest) []).map (.table .implied)
    | some (.table origin entries) => (descend f (next :: rest) entries).map (.table origin)
    | some (.tables elements) => (modifyLast (descend f (next :: rest)) elements).map .tables
    | some (.leaf _) => none

/-- Open the table of a header. -/
def openTable : List String → Entries → Option Entries :=
  descend fun key => modify key fun
    | none => some (.table .header [])
    | some (.table .implied entries) => some (.table .header entries)
    | some _ => none

/-- Open a further table of an array of tables. -/
def openElement : List String → Entries → Option Entries :=
  descend fun key => modify key fun
    | none => some (.tables [[]])
    | some (.tables elements) => some (.tables (elements ++ [[]]))
    | some _ => none

/-- Set a key in the table that was opened last, which has a path. -/
def assignWithin (table : List String) (path : List String) (value : Setting) :
    Entries → Option Entries :=
  let assignAt (key : String) : Entries → Option Entries := modify key fun
    | some (.table origin entries) => (assign value path entries).map (.table origin)
    | some (.tables elements) => (modifyLast (assign value path) elements).map .tables
    | _ => none
  match table with
  | [] => assign value path
  | _ => descend assignAt table

end Entries

mutual

/-- The setting of a node. -/
def nodeSetting : Node → Setting
  | .leaf value => value
  | .table _ entries => .table (entrySettings entries)
  | .tables elements => .list (elementSettings elements)

/-- The settings of entries. -/
def entrySettings : List (String × Node) → List (String × Setting)
  | [] => []
  | (name, node) :: rest => (name, nodeSetting node) :: entrySettings rest

/-- The settings of the tables of an array. -/
def elementSettings : List (List (String × Node)) → List Setting
  | [] => []
  | entries :: rest => .table (entrySettings entries) :: elementSettings rest

end

end HttpGateway.Toml
