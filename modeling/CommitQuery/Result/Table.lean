-- Query results as rows and columns. A record is laid out by its members; a
-- nested record adds its own members under dotted names, and a sequence stays one
-- cell.
import CommitQuery.Text.Width
import CommitQuery.Value.Schema

namespace CommitQuery

/-- A column: its name and the members to follow from the row's value. -/
structure Column (κ ρ : Type) where
  name : String
  path : List (Member κ ρ)

structure Table (κ ρ : Type) where
  columns : List (Column κ ρ)
  rows : List (List (Value κ ρ))

variable {κ ρ : Type}

/-- The value at the end of a path; from Null every path leads to Null. -/
def Value.follow (v : Value κ ρ) : List (Member κ ρ) → Value κ ρ
  | [] => v
  | m :: more => if v.isNull then .null else (m.get v).follow more

namespace Schema

variable (S : Schema κ ρ)

/-- How many records deep a column can lie below the record of the row. -/
def maxNesting : Nat := 2

/-- The columns of a record kind, at most `nesting` records further down. Their
names start with `lead`, their paths with `path`. -/
def columnsBelow (lead : String) (path : List (Member κ ρ)) : Nat → κ → List (Column κ ρ)
  | nesting, kind => (S.members kind).flatMap fun m =>
    match m.type with
    | .record inner =>
      match nesting with
      | 0 => []
      | nesting + 1 => columnsBelow (lead ++ m.name ++ ".") (path ++ [m]) nesting inner
    | _ => [⟨lead ++ m.name, path ++ [m]⟩]

/-- The columns for rows of a type; a row that is no record is one cell. -/
def columnsOf : ValueType κ → List (Column κ ρ)
  | .record kind => S.columnsBelow "" [] maxNesting kind
  | _ => [⟨"Value", []⟩]

/-- The table of rows of a type. -/
def tableOf (type : ValueType κ) (rows : List (Value κ ρ)) : Table κ ρ :=
  let columns := S.columnsOf type
  ⟨columns, rows.map fun row => columns.map fun c => row.follow c.path⟩

/-- The table of a value: a row for each item of a sequence, else one row. -/
def tabulate (v : Value κ ρ) : Table κ ρ :=
  match v with
  | .sequence element items _ => S.tableOf element items
  | v => S.tableOf (S.typeOf v) [v]

/-- The text of a cell: a list of texts is written out, Nulls in it left out. -/
def cellText (v : Value κ ρ) : String :=
  match v with
  | .sequence .text items _ => Text.joinWith "; " (items.filterMap (·.toText?))
  | v => S.shown v

def cellWidth (v : Value κ ρ) : Nat := Text.width (S.cellText v)

end Schema

namespace Table

variable (S : Schema κ ρ) (t : Table κ ρ)

def rowCount : Nat := t.rows.length

/-- The widest of a name and the cells below it. -/
def columnWidth (name : String) (cells : List (Value κ ρ)) : Nat :=
  cells.foldl (fun w v => max w (S.cellWidth v)) (Text.width name)

/-- The widths of all columns. -/
def widths : List Nat :=
  t.columns.zipIdx.map fun (c, i) => columnWidth S c.name (t.rows.filterMap (·[i]?))

end Table

end CommitQuery
