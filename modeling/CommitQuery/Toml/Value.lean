-- TOML values, and the tables that the statements of a document build. A table
-- remembers how it came to be, because that decides what may still be added.

namespace CommitQuery

/-- How a table came to be: by a header of its own, by the header of a table
inside it, or by a key with dots. The table of the whole document has a header. -/
inductive Toml.Origin
  | header
  | implied
  | dotted
deriving DecidableEq, Repr

/-- A value. A float and a point in time are kept as they are spelled. Nothing can
be added to a closed table, which is one written in braces; of an array of tables
only the last table is open. -/
inductive Toml
  | text (s : String)
  | integer (n : Int64)
  | float (spelling : String)
  | bool (b : Bool)
  | moment (spelling : String)
  | array (items : List Toml)
  | closed (entries : List (String × Toml))
  | table (origin : Toml.Origin) (entries : List (String × Toml))
  | tables (earlier : List (List (String × Toml))) (last : List (String × Toml))
deriving Repr

namespace Toml

/-- The keys of a table with their values. -/
abbrev Entries := List (String × Toml)

/-- The value of a key. -/
def find? (key : String) : Entries → Option Toml
  | [] => none
  | (k, v) :: rest => if k = key then some v else find? key rest

/-- The entries with a value for a key, in its old place if it had one. -/
def put (key : String) (value : Toml) : Entries → Entries
  | [] => [(key, value)]
  | (k, v) :: rest => if k = key then (k, value) :: rest else (k, v) :: put key value rest

/-! ## Tables inside tables -/

/-- Changes the table at the end of a path, and makes the tables on the way that
are not there yet. `made` is their origin; keys with dots go through no table
that has a header. -/
def alter (made : Origin) (change : Origin → Entries → Option Entries) :
    List String → Origin → Entries → Option Entries
  | [], origin, entries => change origin entries
  | key :: path, _, entries =>
    match find? key entries with
    | none => do
      let inner ← alter made change path made []
      return put key (.table made inner) entries
    | some (.table origin inner) =>
      if made = .dotted && origin = .header then none
      else do
        let inner ← alter made change path origin inner
        return put key (.table origin inner) entries
    | some (.tables earlier last) => do
      let last ← alter made change path .header last
      return put key (.tables earlier last) entries
    | some _ => none

/-- Adds a value under a new key. -/
def addNew (key : String) (value : Toml) (entries : Entries) : Option Entries :=
  match find? key entries with
  | some _ => none
  | none => some (entries ++ [(key, value)])

/-- Adds a value under a key with dots in front of its last part. A table that
such a key adds to has to come from keys with dots itself. -/
def assign (path : List String) (key : String) (value : Toml) (origin : Origin)
    (entries : Entries) : Option Entries :=
  alter .dotted
    (fun origin inner =>
      if path.isEmpty || origin = .dotted then addNew key value inner else none)
    path origin entries

/-- Opens the table of a header. A table that other headers implied is opened once. -/
def openTable (key : String) (entries : Entries) : Option Entries :=
  match find? key entries with
  | none => some (put key (.table .header []) entries)
  | some (.table .implied inner) => some (put key (.table .header inner) entries)
  | some _ => none

/-- Opens one more table of an array of tables. -/
def openNext (key : String) (entries : Entries) : Option Entries :=
  match find? key entries with
  | none => some (put key (.tables [] []) entries)
  | some (.tables earlier last) => some (put key (.tables (earlier ++ [last]) []) entries)
  | some _ => none

/-! ## Documents -/

/-- A statement of a document. The path is what stands in front of the last part
of a key. -/
inductive Statement
  | assign (path : List String) (key : String) (value : Toml)
  | table (path : List String) (key : String)
  | nextTable (path : List String) (key : String)
deriving Repr

/-- The tables so far, and the path of the one that is open. -/
structure Document where
  entries : Entries
  current : List String

namespace Document

/-- Carries out a statement; none where it clashes with an earlier one. -/
def add (d : Document) : Statement → Option Document
  | .assign path key value => do
    let entries ← alter .implied (assign path key value) d.current .header d.entries
    return { d with entries := entries }
  | .table path key => do
    let entries ← alter .implied (fun _ => openTable key) path .header d.entries
    return ⟨entries, path ++ [key]⟩
  | .nextTable path key => do
    let entries ← alter .implied (fun _ => openNext key) path .header d.entries
    return ⟨entries, path ++ [key]⟩

/-- The entries of the document that statements write. -/
def ofStatements (list : List Statement) : Option Entries := do
  return (← list.foldlM add ⟨[], []⟩).entries

end Document

end Toml

end CommitQuery
