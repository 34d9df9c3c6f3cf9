-- Query results and errors as they are shown on a terminal.
import CommitQuery.Commit.Records
import CommitQuery.Plan.Error
import CommitQuery.Result.Table
import CommitQuery.Screen.Matches

namespace CommitQuery.Screen

open CommitQuery.Text

variable {ε σ : Type}

/-! ## Commits -/

def commitHeadings : List Heading :=
  [⟨"SHA".toList, success, .left⟩,
   ⟨"Author".toList, accent, .left⟩,
   ⟨"Date".toList, warning, .left⟩,
   ⟨"Files".toList, information, .right⟩,
   ⟨"+".toList, success, .right⟩,
   ⟨"-".toList, failure, .right⟩,
   ⟨"Message".toList, accent, .left⟩]

def commitRow (o : Options) (c : Commit) : List Cell :=
  [Cell.colored success c.shortSha.toList,
   Cell.plain (truncate c.authorName.toList o.authorWidth),
   Cell.plain c.authorWhen.shown.toList,
   Cell.plain (toString c.diff.fileCount.toInt).toList,
   Cell.colored success ('+' :: (toString c.diff.addedTotal.toInt).toList),
   Cell.colored failure ('-' :: (toString c.diff.deletedTotal.toInt).toList),
   Cell.plain (truncate c.subject.toList o.messageWidth)]

/-- A list of commits, and the lines that match the search if there is one. -/
def commits (o : Options) (list : List Commit) : List Char :=
  if list.isEmpty then o.paint muted "No commits found.".toList ++ ['\n']
  else
    table o commitHeadings (list.map (commitRow o)) ++ footer o list.length "commit" ++
      match o.search with
      | some search => matchPanel o list search
      | none => []

/-! ## Files -/

def fileHeadings : List Heading :=
  [⟨"Status".toList, warning, .left⟩,
   ⟨"+".toList, success, .right⟩,
   ⟨"-".toList, failure, .right⟩,
   ⟨"Path".toList, accent, .left⟩]

def statusColor : ChangeStatus → Color
  | .added => success
  | .deleted => failure
  | .modified => warning
  | .renamed | .copied => renamed
  | .typeChanged => muted

def fileRow (f : FileChange) : List Cell :=
  [Cell.colored (statusColor f.status) f.status.name.toList,
   Cell.colored success ('+' :: (toString f.addedCount.toInt).toList),
   Cell.colored failure ('-' :: (toString f.deletedCount.toInt).toList),
   Cell.plain (f.shownPath ++ if f.isBinary then " (binary)" else "").toList]

def files (o : Options) (list : List FileChange) : List Char :=
  if list.isEmpty then o.paint muted "No files found.".toList ++ ['\n']
  else table o fileHeadings (list.map fileRow) ++ footer o list.length "file"

/-! ## Everything else -/

/-- The columns that a cell of a general table may take. -/
def generalWidth : Nat := 40

def generalCell {κ ρ : Type} (S : Schema κ ρ) (v : Value κ ρ) : Cell :=
  match v with
  | .null => Cell.colored muted (S.shown v).toList
  | .int _ | .long _ => Cell.colored success (S.shown v).toList
  | v => Cell.plain (truncate (S.cellText v).toList generalWidth)

def general {κ ρ : Type} (S : Schema κ ρ) (o : Options) (t : Table κ ρ) : List Char :=
  table o (t.columns.map fun c => ⟨c.name.toList, accent, .left⟩)
      (t.rows.map fun row => row.map (generalCell S)) ++
    footer o t.rowCount "row"

/-- The commits among the items of a sequence. -/
def commitsOf (items : List (Value (Kind ε) (Record σ))) : List Commit :=
  items.filterMap fun
    | .record (.commit c) _ => some c
    | _ => none

/-- The files among the items of a sequence. -/
def filesOf (items : List (Value (Kind ε) (Record σ))) : List FileChange :=
  items.filterMap fun
    | .record (.file f) _ => some f
    | _ => none

/-- A result, ended by a newline. Commits and files have tables of their own. -/
def result (x : Extension ε σ) (o : Options) (v : Value (Kind ε) (Record σ)) : List Char :=
  match v with
  | .null => o.paint muted (x.schema.shown v).toList ++ ['\n']
  | .bool b => o.paint (if b then success else failure) (x.schema.shown v).toList ++ ['\n']
  | .int _ | .long _ => o.paint success (x.schema.shown v).toList ++ ['\n']
  | .text _ | .timestamp _ => o.paint warning (x.schema.shown v).toList ++ ['\n']
  | .record (.commit c) _ => commits o [c]
  | .record (.file f) _ => files o [f]
  | .record _ _ => general x.schema o (x.schema.tabulate v)
  | .sequence (.record .commit) items _ => commits o (commitsOf items)
  | .sequence (.record .file) items _ => files o (filesOf items)
  | .sequence _ [] _ => o.paint muted "No results.".toList ++ ['\n']
  | .sequence _ _ _ => general x.schema o (x.schema.tabulate v)

/-- The text of a result. -/
def render (x : Extension ε σ) (o : Options) (v : Value (Kind ε) (Record σ)) : String :=
  String.ofList (result x o v)

/-! ## Errors -/

def categoryColor : ErrorCategory → Color
  | .malformed | .runtime => failure
  | .resolution => warning

/-- The lines that point at the place of a malformed query. -/
def errorPointer (e : QueryError) (query : String) : List Char :=
  match e with
  | .malformed bad => (lines (bad.pointer query).toList).flatMap fun l => ' ' :: ' ' :: l ++ ['\n']
  | _ => []

/-- An error under the title of its category. -/
def renderError (o : Options) (e : QueryError) (query : String) : String :=
  String.ofList (
    o.bold (categoryColor e.category) (e.category.title ++ ":").toList ++ ' ' ::
      e.message.toList ++ '\n' :: errorPointer e query)

end CommitQuery.Screen
