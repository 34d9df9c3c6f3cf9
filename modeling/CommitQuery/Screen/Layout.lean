-- Tables on a terminal: texts cut to a width, cells padded to the width of their
-- column, a header with a rule below it.
import CommitQuery.Screen.Style
import CommitQuery.Text.Pieces
import CommitQuery.Text.Width

namespace CommitQuery.Screen

open CommitQuery.Text

/-! ## Texts of a given width -/

/-- What stands for the part of a text that is cut off. -/
def ellipsis : List Char := ['.', '.', '.']

/-- The longest beginning of a text whose characters take no more than `budget` columns. -/
def fitting (budget : Nat) : List Char → List Char
  | [] => []
  | c :: rest => if charWidth c ≤ budget then c :: fitting (budget - charWidth c) rest else []

/-- A text that takes at most `max` columns; a longer one is cut and ends in an ellipsis. -/
def truncate (text : List Char) (max : Nat) : List Char :=
  if displayWidth text ≤ max then text else fitting (max - ellipsis.length) text ++ ellipsis

inductive Align
  | left
  | right
deriving DecidableEq, Repr

/-- A text filled up with spaces to a width. -/
def pad (text : List Char) (width : Nat) (align : Align) : List Char :=
  let fill := List.replicate (width - displayWidth text) ' '
  match align with
  | .left => text ++ fill
  | .right => fill ++ text

/-! ## Tables -/

structure Heading where
  title : List Char
  color : Color
  align : Align

structure Cell where
  text : List Char
  color : Option Color

/-- A cell in the colour of the terminal. -/
def Cell.plain (text : List Char) : Cell := ⟨text, none⟩

/-- A cell in a colour of its own. -/
def Cell.colored (c : Color) (text : List Char) : Cell := ⟨text, some c⟩

/-- The width of each column: that of its heading or of its widest cell. -/
def columnWidths (headings : List Heading) (rows : List (List Cell)) : List Nat :=
  rows.foldl (fun widths row => widths.zipWith (fun w cell => max w (displayWidth cell.text)) row)
    (headings.map fun h => displayWidth h.title)

/-- What stands between two columns. -/
def gap : List Char := [' ', ' ']

/-- Cells in a row. -/
def joinCells : List (List Char) → List Char
  | [] => []
  | [cell] => cell
  | cell :: more => cell ++ gap ++ joinCells more

/-- A line without the blanks at its end. -/
def line (cells : List (List Char)) : List Char := trimEnd (joinCells cells) ++ ['\n']

/-- The rule below the headings, as wide as the table. -/
def rule (widths : List Nat) : List Char :=
  List.replicate (total widths + gap.length * (widths.length - 1)) '─'

def headerLine (o : Options) (headings : List Heading) (widths : List Nat) : List Char :=
  line (headings.zipWith (fun h w => o.bold h.color (pad h.title w h.align)) widths)

def rowLine (o : Options) (aligns : List Align) (widths : List Nat) (row : List Cell) : List Char :=
  line (row.zipWith (fun cell (align, w) =>
    let padded := pad cell.text w align
    match cell.color with
    | some c => o.paint c padded
    | none => padded) (aligns.zip widths))

/-- A table: its headings, a rule and its rows. -/
def table (o : Options) (headings : List Heading) (rows : List (List Cell)) : List Char :=
  let widths := columnWidths headings rows
  headerLine o headings widths ++ o.paint muted (rule widths) ++ '\n' ::
    rows.flatMap (rowLine o (headings.map (·.align)) widths)

/-- A line that counts what is shown. -/
def footer (o : Options) (count : Nat) (noun : String) : List Char :=
  o.paint muted (("(" ++ toString count ++ " " ++ noun ++ (if count = 1 then "" else "s") ++
    ")").toList) ++ ['\n']

end CommitQuery.Screen
