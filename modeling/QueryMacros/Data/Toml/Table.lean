import QueryMacros.Data.Basic

/-!
# Tables of TOML

The tables of a document are built up statement by statement, and how a table
came to be decides what may still be added to it. A table that was only named, on
the way to another one, can be defined later on, once. A table that dotted keys
made can be extended by dotted keys only. A value is closed, and so are the
tables and lists inside it. A list of tables grows by one table at a time, and
only its last table can be extended.
-/
namespace QueryMacros.Toml

/-- A key: the names of the tables on the way, and a name in the last of them. -/
structure Key where
  path : List Text
  name : Text
deriving DecidableEq, Repr

/-- All names of a key. -/
def Key.names (key : Key) : List Text := key.path ++ [key.name]

/-- How a table came to be. -/
inductive Standing where
  /-- It was named on the way to a table. -/
  | implied
  /-- It was named on the way to a value. -/
  | dotted
  /-- It has a header of its own, or is the whole document. -/
  | defined
deriving DecidableEq, Repr

/-- What a name in a table stands for. -/
inductive Node where
  | value (data : Data)
  | table (standing : Standing) (entries : List (Text × Node))
  /-- A list of tables: the last one, and those before it from last to first. -/
  | tables (last : List (Text × Node)) (earlier : List (List (Text × Node)))

/-- The names of a table in order, with what they stand for. -/
abbrev Entries := List (Text × Node)

/-- Changes what a name stands for, or adds the name at the end. -/
def alter (name : Text) (change : Option Node → Option Node) : Entries → Option Entries
  | [] => (change none).map fun node => [(name, node)]
  | (other, node) :: rest =>
      if other = name then (change (some node)).map fun node => (other, node) :: rest
      else (alter name change rest).map ((other, node) :: ·)

/-- Changes the table at the end of a path. Tables that are missing on the way are
made. Dotted keys do not pass through a table that is defined. -/
def descend (byDots : Bool) (change : Standing → Entries → Option Entries) :
    List Text → Standing → Entries → Option Entries
  | [], standing, entries => change standing entries
  | name :: path, _, entries =>
      alter name
        (fun
          | none =>
              let standing := if byDots then .dotted else .implied
              (descend byDots change path standing []).map (.table standing)
          | some (.table standing inner) =>
              if byDots ∧ standing = .defined then none
              else (descend byDots change path standing inner).map (.table standing)
          | some (.tables last earlier) =>
              (descend byDots change path .defined last).map (.tables · earlier)
          | some (.value _) => none)
        entries

/-- Adds a value to a table under a key. The name must be new, and what dotted
keys made is kept apart from what they did not. -/
def addValue (key : Key) (data : Data) (standing : Standing) (entries : Entries) :
    Option Entries :=
  descend true
    (fun standing entries =>
      if standing = .dotted ↔ key.path ≠ [] then
        alter key.name (fun | none => some (.value data) | some _ => none) entries
      else none)
    key.path standing entries

/-- Defines a table of a document. -/
def defineTable (key : Key) (document : Entries) : Option Entries :=
  descend false
    (fun _ entries =>
      alter key.name
        (fun
          | none => some (.table .defined [])
          | some (.table .implied inner) => some (.table .defined inner)
          | some _ => none)
        entries)
    key.path .defined document

/-- Adds a table to a list of tables of a document. -/
def appendTable (key : Key) (document : Entries) : Option Entries :=
  descend false
    (fun _ entries =>
      alter key.name
        (fun
          | none => some (.tables [] [])
          | some (.tables last earlier) => some (.tables [] (last :: earlier))
          | some _ => none)
        entries)
    key.path .defined document

/-- Adds a value to the table of a document that was defined or appended last. -/
def addWithin (table : List Text) (key : Key) (data : Data) (document : Entries) :
    Option Entries :=
  descend false (addValue key data) table .defined document

mutual

/-- What a name stands for, as data. -/
def Node.toData : Node → Data
  | .value data => data
  | .table _ entries => .record (fieldsOf entries)
  | .tables last earlier => .list (.record (fieldsOf last) :: recordsOf earlier).reverse

/-- The entries of a table as fields. -/
def fieldsOf : List (Text × Node) → List (Option Text × Data)
  | [] => []
  | (name, node) :: rest => (some name, node.toData) :: fieldsOf rest

/-- Tables as records, in the given order. -/
def recordsOf : List (List (Text × Node)) → List Data
  | [] => []
  | entries :: rest => .record (fieldsOf entries) :: recordsOf rest

end

end QueryMacros.Toml
