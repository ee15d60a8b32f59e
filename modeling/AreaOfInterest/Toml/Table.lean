import AreaOfInterest.Toml.Value

/-!
# TOML tables under construction

A document fills its tables line by line. Each table remembers how it came about, because that decides what may
still be added: a table is opened by one header only, a table that dotted keys have made is open to dotted keys
only, and no key is set twice. A header goes on inside the last table of an array of tables.
-/

namespace AreaOfInterest.Toml

/-- How a table came about. -/
inductive Origin where
  /-- By a header of its own. -/
  | header
  /-- On the way to a table with a header. -/
  | path
  /-- By a dotted key. -/
  | dotted
  deriving DecidableEq, Repr

/-- A place in a document under construction. -/
inductive Node where
  | value (value : Toml)
  | table (origin : Origin) (entries : List (String × Node))
  | tables (items : List (List (String × Node)))

/-- The entries of a table under construction, in the order of the document. -/
abbrev Entries := List (String × Node)

namespace Entries

/-- The entries with one set, in its old place if the key is there already. -/
def set (key : String) (node : Node) : Entries → Entries
  | [] => [(key, node)]
  | (k, n) :: rest => if k = key then (key, node) :: rest else (k, n) :: set key node rest

/-- Changes the last of some tables; none when there is no table. -/
def alterLast (f : Entries → Option Entries) (items : List Entries) : Option (List Entries) :=
  match items.getLast? with
  | none => none
  | some last => (f last).map fun changed => items.dropLast ++ [changed]

/-- Opens the table at a path by a header. -/
def openTable : List String → Entries → Option Entries
  | [], _ => none
  | [key], entries =>
    match entries.lookup key with
    | none => some (set key (.table .header []) entries)
    | some (.table .path inner) => some (set key (.table .header inner) entries)
    | some _ => none
  | key :: rest, entries =>
    match entries.lookup key with
    | none => (openTable rest []).map fun inner => set key (.table .path inner) entries
    | some (.table origin inner) => (openTable rest inner).map fun inner => set key (.table origin inner) entries
    | some (.tables items) => (alterLast (openTable rest) items).map fun items => set key (.tables items) entries
    | some (.value _) => none

/-- Adds a table to the array of tables at a path. -/
def openItem : List String → Entries → Option Entries
  | [], _ => none
  | [key], entries =>
    match entries.lookup key with
    | none => some (set key (.tables [[]]) entries)
    | some (.tables items) => some (set key (.tables (items ++ [[]])) entries)
    | some _ => none
  | key :: rest, entries =>
    match entries.lookup key with
    | none => (openItem rest []).map fun inner => set key (.table .path inner) entries
    | some (.table origin inner) => (openItem rest inner).map fun inner => set key (.table origin inner) entries
    | some (.tables items) => (alterLast (openItem rest) items).map fun items => set key (.tables items) entries
    | some (.value _) => none

/-- Sets the value of a dotted key. -/
def assign (value : Toml) : List String → Entries → Option Entries
  | [], _ => none
  | [key], entries => if (entries.lookup key).isSome then none else some (set key (.value value) entries)
  | key :: rest, entries =>
    match entries.lookup key with
    | none => (assign value rest []).map fun inner => set key (.table .dotted inner) entries
    | some (.table origin inner) =>
      if origin = .header ∨ (origin = .path ∧ rest.length = 1) then none
      else (assign value rest inner).map fun inner => set key (.table origin inner) entries
    | some (.tables items) =>
      if rest.length = 1 then none
      else (alterLast (assign value rest) items).map fun items => set key (.tables items) entries
    | some (.value _) => none

/-- Changes the table that a header has opened at a path. -/
def alterAt (f : Entries → Option Entries) : List String → Entries → Option Entries
  | [], entries => f entries
  | key :: rest, entries =>
    match entries.lookup key with
    | some (.table origin inner) => (alterAt f rest inner).map fun inner => set key (.table origin inner) entries
    | some (.tables items) => (alterLast (alterAt f rest) items).map fun items => set key (.tables items) entries
    | _ => none

end Entries

mutual

/-- The finished value of a place. -/
def Node.toToml : Node → Toml
  | .value v => v
  | .table _ entries => .table (finishedEntries entries)
  | .tables items => .array (finishedItems items)

/-- The finished entries of a table. -/
def finishedEntries : List (String × Node) → List (String × Toml)
  | [] => []
  | (key, node) :: rest => (key, node.toToml) :: finishedEntries rest

/-- The finished tables of an array of tables. -/
def finishedItems : List (List (String × Node)) → List Toml
  | [] => []
  | entries :: rest => .table (finishedEntries entries) :: finishedItems rest

end

end AreaOfInterest.Toml
