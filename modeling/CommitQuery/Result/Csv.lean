-- Query results as CSV: a header, a line for each row, and quotes around a field
-- that holds a comma, a quote or the end of a line.
import CommitQuery.Result.Table

namespace CommitQuery.Csv

variable {κ ρ : Type}

/-- Whether a field has to stand in quotes. -/
def needsQuotes (field : List Char) : Bool :=
  field.any fun c => c = ',' || c = '"' || c = '\n' || c = '\r'

/-- A field as it is written; a quote inside quotes is written twice. -/
def escape (field : String) : List Char :=
  if needsQuotes field.toList then
    '"' :: field.toList.flatMap (fun c => if c = '"' then ['"', '"'] else [c]) ++ ['"']
  else field.toList

/-- A record: its fields with commas in between, ended by a newline. -/
def record (fields : List String) : List Char :=
  match fields with
  | [] => ['\n']
  | first :: more => escape first ++ more.flatMap (',' :: escape ·) ++ ['\n']

/-- The text of a cell: nothing for Null, an exact time, the length of a sequence
unless it is one of texts. -/
def cell (S : Schema κ ρ) (v : Value κ ρ) : String :=
  match v with
  | .null => ""
  | .timestamp t => t.toText
  | .sequence .text _ _ => S.cellText v
  | .sequence _ items _ => toString items.length
  | v => S.cellText v

/-- A table as CSV. -/
def ofTable (S : Schema κ ρ) (t : Table κ ρ) : String :=
  String.ofList (record (t.columns.map (·.name)) ++
    t.rows.flatMap fun row => record (row.map (cell S)))

/-- A value as CSV. -/
def ofValue (S : Schema κ ρ) (v : Value κ ρ) : String := ofTable S (S.tabulate v)

end CommitQuery.Csv
