-- General tables as grids: a line for each row, and each column at the same display column in
-- every line. Widths add up over the gaps between the columns, whatever the texts are; only a
-- newline in a text breaks its row, and the grid with it.
import CommitQuery.Proofs.Screen.Counts
import CommitQuery.Proofs.Screen.EscapeFree
import CommitQuery.Proofs.Text.Width

namespace CommitQuery.Screen

open CommitQuery.Text

/-! ## Columns -/

theorem displayWidth_behind_gap (s t : List Char) :
    displayWidth (s ++ gap ++ t) = displayWidth s + 2 + displayWidth t := by
  have alone : StandsAlone (gap ++ t) := congrArg Prod.snd (widthFrom_space (' ' :: t))
  have spaces : displayWidth (gap ++ t) = 2 + displayWidth t := displayWidth_spaces_append 2 t
  rw [List.append_assoc, displayWidth_append alone, spaces, Nat.add_assoc]

/-- The display columns that columns of some widths start at, with gaps in between. -/
def columnStarts : List Nat → List Nat
  | [] => []
  | w :: more => 0 :: (columnStarts more).map (w + 2 + ·)

/-- A text stands in another one, behind a number of display columns. -/
def LiesAt (whole : List Char) (start : Nat) (text : List Char) : Prop :=
  ∃ before after, whole = before ++ text ++ after ∧ displayWidth before = start

theorem LiesAt.behind {whole text : List Char} {start : Nat} (h : LiesAt whole start text)
    (cell : List Char) : LiesAt (cell ++ gap ++ whole) (displayWidth cell + 2 + start) text := by
  obtain ⟨before, after, rfl, rfl⟩ := h
  exact ⟨cell ++ gap ++ before, after, by simp, displayWidth_behind_gap cell before⟩

theorem displayWidth_pad {text : List Char} {width : Nat} (fits : displayWidth text ≤ width) :
    displayWidth (pad text width .left) = width := by
  rw [pad, displayWidth_append (standsAlone_spaces _), displayWidth_spaces]
  omega

/-- Columns of some widths hold some texts. -/
def Fits (widths : List Nat) (texts : List (List Char)) : Prop :=
  List.Forall₂ (fun w text => displayWidth text ≤ w) widths texts

/-- A row of texts, each filled up to the width of its column. -/
def filled (widths : List Nat) (texts : List (List Char)) : List Char :=
  joinCells (texts.zipWith (fun text w => pad text w .left) widths)

/-- Each text that is not wider than its column starts where the column does. -/
theorem Fits.liesAt {widths : List Nat} {texts : List (List Char)} (fits : Fits widths texts) :
    List.Forall₂ (LiesAt (filled widths texts)) (columnStarts widths) texts := by
  induction fits with
  | nil => exact .nil
  | @cons w text widths texts fit fits ih =>
    have first : ∀ behind, LiesAt (pad text w .left ++ behind) 0 text := fun behind =>
      ⟨[], List.replicate (w - displayWidth text) ' ' ++ behind, by simp [pad], rfl⟩
    cases fits with
    | nil =>
      have alone := first []
      rw [List.append_nil] at alone
      exact .cons alone .nil
    | @cons next_width next widths texts _ _ =>
      have whole : filled (w :: next_width :: widths) (text :: next :: texts) =
          pad text w .left ++ gap ++ filled (next_width :: widths) (next :: texts) := rfl
      rw [whole]
      refine .cons ?_ ?_
      · rw [List.append_assoc]
        exact first _
      · rw [List.forall₂_map_left_iff]
        refine ih.imp fun start other lies => ?_
        have behind := lies.behind (pad text w .left)
        rwa [displayWidth_pad fit] at behind

theorem mem_of_mem_joinCells {cells : List (List Char)} {c : Char} (h : c ∈ joinCells cells) :
    c = ' ' ∨ ∃ cell ∈ cells, c ∈ cell := by
  induction cells with
  | nil => cases h
  | cons first rest ih =>
    cases rest with
    | nil => exact .inr ⟨first, List.mem_singleton_self _, h⟩
    | cons next rest =>
      have split : c ∈ first ∨ c ∈ gap ∨ c ∈ joinCells (next :: rest) := by
        simpa [joinCells] using h
      rcases split with here | space | later
      · exact .inr ⟨first, List.mem_cons_self, here⟩
      · exact .inl (by simpa [gap] using space)
      · rcases ih later with space | ⟨cell, hcell, hc⟩
        · exact .inl space
        · exact .inr ⟨cell, List.mem_cons_of_mem _ hcell, hc⟩

theorem not_mem_filled {c : Char} (other : c ≠ ' ') {texts : List (List Char)}
    (h : ∀ text ∈ texts, c ∉ text) (widths : List Nat) : c ∉ filled widths texts := by
  intro hc
  rcases mem_of_mem_joinCells hc with space | ⟨cell, hcell, hc⟩
  · exact other space
  · rw [← List.map_uncurry_zip_eq_zipWith] at hcell
    obtain ⟨⟨text, w⟩, zipped, rfl⟩ := List.mem_map.mp hcell
    exact not_mem_pad other (h text (List.of_mem_zip zipped).1) w .left hc

/-! ## Widths of columns -/

/-- The widths of columns with a row more in them. -/
def widen (widths : List Nat) (row : List Cell) : List Nat :=
  widths.zipWith (fun w cell => max w (displayWidth cell.text)) row

theorem Fits.widen {widths : List Nat} {texts : List (List Char)} (fits : Fits widths texts)
    {row : List Cell} (length : row.length = widths.length) :
    Fits (Screen.widen widths row) texts := by
  induction fits generalizing row with
  | nil =>
    rw [List.length_eq_zero_iff.mp length]
    exact .nil
  | cons fit fits ih =>
    obtain ⟨cell, row, rfl⟩ := List.exists_cons_of_length_eq_add_one length
    exact .cons (Nat.le_trans fit (Nat.le_max_left _ _)) (ih (Nat.succ.inj length))

theorem fits_widen {widths : List Nat} {row : List Cell} (length : row.length = widths.length) :
    Fits (widen widths row) (row.map (·.text)) := by
  induction row generalizing widths with
  | nil =>
    rw [List.length_eq_zero_iff.mp length.symm]
    exact .nil
  | cons cell row ih =>
    obtain ⟨w, widths, rfl⟩ := List.exists_cons_of_length_eq_add_one length.symm
    exact .cons (Nat.le_max_right _ _) (ih (Nat.succ.inj length))

theorem fits_foldl_widen {rows : List (List Cell)} {widths : List Nat}
    (length : ∀ row ∈ rows, row.length = widths.length) :
    (∀ texts, Fits widths texts → Fits (rows.foldl widen widths) texts) ∧
      ∀ row ∈ rows, Fits (rows.foldl widen widths) (row.map (·.text)) := by
  induction rows generalizing widths with
  | nil => exact ⟨fun _ fits => fits, List.forall_mem_nil _⟩
  | cons row rows ih =>
    obtain ⟨first, more⟩ := List.forall_mem_cons.mp length
    have same : (widen widths row).length = widths.length := by
      rw [widen, List.length_zipWith, first, min_self]
    have wider : ∀ other ∈ rows, other.length = (widen widths row).length := by rwa [same]
    obtain ⟨kept, held⟩ := ih wider
    refine ⟨fun texts fits => kept texts (fits.widen first), ?_⟩
    exact List.forall_mem_cons.mpr ⟨kept _ (fits_widen first), held⟩

/-- Columns hold their headings and all cells below. -/
theorem fits_columnWidths {headings : List Heading} {rows : List (List Cell)}
    (length : ∀ row ∈ rows, row.length = headings.length) :
    Fits (columnWidths headings rows) (headings.map (·.title)) ∧
      ∀ row ∈ rows, Fits (columnWidths headings rows) (row.map (·.text)) := by
  have start : Fits (headings.map fun h => displayWidth h.title) (headings.map (·.title)) := by
    rw [Fits, List.forall₂_map_left_iff, List.forall₂_map_right_iff, List.forall₂_same]
    exact fun _ _ => Nat.le_refl _
  have same : ∀ row ∈ rows, row.length = (headings.map fun h => displayWidth h.title).length := by
    rwa [List.length_map]
  obtain ⟨kept, held⟩ := fits_foldl_widen same
  exact ⟨kept _ start, held⟩

/-! ## Plain lines -/

/-- A text starts at a display column of a line, whose blanks at the end are cut off. -/
def StandsAt (line : List Char) (start : Nat) (text : List Char) : Prop :=
  ∃ whole, line = trimEnd whole ∧ LiesAt whole start text

theorem Fits.standsAt {widths : List Nat} {texts : List (List Char)} (fits : Fits widths texts) :
    List.Forall₂ (StandsAt (trimEnd (filled widths texts))) (columnStarts widths) texts :=
  fits.liesAt.imp fun _ _ lies => ⟨_, rfl, lies⟩

/-- The heading of a column of a general table. -/
def generalHeading (title : List Char) : Heading := ⟨title, accent, .left⟩

section Plain

variable {o : Options} (plain : o.color = false)
include plain

theorem paint_plain (c : Color) (text : List Char) : o.paint c text = text := by
  rw [Options.paint, plain]
  rfl

theorem bold_plain (c : Color) (text : List Char) : o.bold c text = text := by
  rw [Options.bold, plain]
  rfl

theorem headerLine_plain (titles : List (List Char)) (widths : List Nat) :
    headerLine o (titles.map generalHeading) widths =
      trimEnd (filled widths titles) ++ ['\n'] := by
  rw [headerLine, List.zipWith_map_left]
  simp only [bold_plain plain]
  rfl

theorem rowLine_plain (row : List Cell) (widths : List Nat) :
    rowLine o (List.replicate widths.length .left) widths row =
      trimEnd (filled widths (row.map (·.text))) ++ ['\n'] := by
  have unpainted : placed o = fun cell place => pad cell.text place.2 place.1 := by
    funext cell place
    unfold placed
    split
    · exact paint_plain plain _ _
    · rfl
  have places : (List.replicate widths.length Align.left).zip widths = widths.map (.left, ·) := by
    induction widths with
    | nil => rfl
    | cons w more ih => exact congrArg ((.left, w) :: ·) ih
  rw [rowLine_eq, places, unpainted, List.zipWith_map_right, filled, List.zipWith_map_left]
  rfl

/-- The lines of a plain table whose columns are all filled up behind their texts. -/
theorem table_plain {titles : List (List Char)} {rows : List (List Cell)}
    (length : ∀ row ∈ rows, row.length = (titles.map generalHeading).length) :
    let widths := columnWidths (titles.map generalHeading) rows
    table o (titles.map generalHeading) rows =
      unlines (trimEnd (filled widths titles) :: rule widths ::
        rows.map fun row => trimEnd (filled widths (row.map (·.text)))) := by
  intro widths
  have aligns : (titles.map generalHeading).map (·.align) =
      List.replicate widths.length .left := by
    rw [length_columnWidths length, List.map_map, List.length_map]
    exact List.map_const' ..
  have line (row : List Cell) :
      rowLine o ((titles.map generalHeading).map (·.align)) widths row =
        trimEnd (filled widths (row.map (·.text))) ++ ['\n'] := by
    rw [aligns, rowLine_plain plain]
  show headerLine o (titles.map generalHeading) widths ++ o.paint muted (rule widths) ++ '\n' ::
    rows.flatMap (rowLine o ((titles.map generalHeading).map (·.align)) widths) = _
  rw [headerLine_plain plain, paint_plain plain, funext line]
  simp [unlines, List.flatMap_map]

end Plain

/-! ## Single lines -/

theorem isLine_counted_rows (count : Nat) : IsLine (counted count "row") := by
  have digits : '\n' ∉ (toString count).toList := not_mem_digits (by decide) count
  constructor
  · simp only [counted, String.toList_append, List.mem_append, not_or]
    refine ⟨⟨⟨⟨⟨by decide, digits⟩, by decide⟩, by decide⟩, ?_⟩, by decide⟩
    split <;> decide
  · rw [counted, String.toList_append, getLast?_append_of_ne_nil _ (by decide)]
    decide

theorem isLine_rule (widths : List Nat) : IsLine (rule widths) := by
  constructor
  · intro newline
    cases List.eq_of_mem_replicate newline
  · intro last
    cases List.eq_of_mem_replicate (List.mem_of_getLast? last)

theorem not_mem_trimEnd {c : Char} {s : List Char} (h : c ∉ s) : c ∉ trimEnd s :=
  fun hc => h ((List.rdropWhile_prefix isBlank s).subset hc)

theorem isLine_trimEnd {s : List Char} (unbroken : '\n' ∉ trimEnd s) : IsLine (trimEnd s) := by
  refine ⟨unbroken, fun last => ?_⟩
  have some_text : trimEnd s ≠ [] := by
    intro none
    rw [none] at last
    cases last
  rw [List.getLast?_eq_some_getLast some_text] at last
  have visible := List.rdropWhile_last_not isBlank s some_text
  rw [show (s.rdropWhile isBlank).getLast some_text = '\r' from Option.some.inj last] at visible
  exact visible (by decide)

/-- Texts that are ended are the lines just if no newline stands in them. -/
theorem lines_unlines_iff {ls : List (List Char)} (ends : ∀ l ∈ ls, '\n' ∉ l → IsLine l) :
    lines (unlines ls) = ls ↔ ∀ l ∈ ls, '\n' ∉ l := by
  refine ⟨fun whole => ?_, fun unbroken => lines_unlines fun l hl => ends l hl (unbroken l hl)⟩
  have count := length_lines_unlines ls
  rw [whole] at count
  have none : total (ls.map (·.count '\n')) = 0 := by omega
  rw [total_eq_zero_iff, List.forall_mem_map] at none
  exact fun l hl => List.count_eq_zero.mp (none l hl)

/-! ## General tables -/

section General

variable {κ ρ : Type} (S : Schema κ ρ) (element : ValueType κ) (items : List (Value κ ρ))

/-- The names of the columns of a table. -/
def titles : List (List Char) := (S.columnsOf element).map (·.name.toList)

/-- The rows of a general table. -/
def generalRows : List (List Cell) :=
  (S.tableOf element items).rows.map fun row => row.map (generalCell S)

def generalWidths : List Nat :=
  columnWidths ((titles S element).map generalHeading) (generalRows S element items)

theorem length_of_mem_generalRows {row : List Cell} (h : row ∈ generalRows S element items) :
    row.length = ((titles S element).map generalHeading).length := by
  obtain ⟨values, hvalues, rfl⟩ := List.mem_map.mp h
  obtain ⟨item, -, rfl⟩ := List.mem_map.mp hvalues
  simp [titles]

theorem length_generalRows : (generalRows S element items).length = items.length := by
  rw [generalRows, List.length_map]
  exact List.length_map ..

/-- The texts in the cells of a general table, row by row. -/
def cellTexts : List (List (List Char)) :=
  (generalRows S element items).map (·.map (·.text))

/-- The line of the headings. -/
def headingText : List Char := trimEnd (filled (generalWidths S element items) (titles S element))

/-- The row of each item. -/
def rowTexts : List (List Char) :=
  (cellTexts S element items).map fun cells =>
    trimEnd (filled (generalWidths S element items) cells)

/-- All of a general table, line by line if no text breaks its row. -/
def tableTexts : List (List Char) :=
  headingText S element items :: rule (generalWidths S element items) ::
    rowTexts S element items ++ [counted items.length "row"]

theorem length_tableTexts : (tableTexts S element items).length = items.length + 3 := by
  simp [tableTexts, rowTexts, cellTexts, length_generalRows]

theorem general_eq (o : Options) : general S o (S.tableOf element items) =
    table o ((titles S element).map generalHeading) (generalRows S element items) ++
      (o.paint muted (counted items.length "row") ++ ['\n']) := by
  have count : (S.tableOf element items).rowCount = items.length := List.length_map ..
  rw [general, count, titles, List.map_map]
  rfl

theorem general_plain {o : Options} (plain : o.color = false) :
    general S o (S.tableOf element items) = unlines (tableTexts S element items) := by
  rw [general_eq, paint_plain plain,
    table_plain plain fun row => length_of_mem_generalRows S element items]
  simp [unlines, tableTexts, headingText, rowTexts, cellTexts, generalWidths, List.flatMap_map]

theorem forall₂_titles : List.Forall₂ (StandsAt (headingText S element items))
    (columnStarts (generalWidths S element items)) (titles S element) := by
  have names := (fits_columnWidths fun row => length_of_mem_generalRows S element items).1
  rw [List.map_map, show Heading.title ∘ generalHeading = id from rfl, List.map_id] at names
  exact Fits.standsAt names

theorem forall₂_cellTexts : List.Forall₂
    (fun row => List.Forall₂ (StandsAt row) (columnStarts (generalWidths S element items)))
    (rowTexts S element items) (cellTexts S element items) := by
  have cells := (fits_columnWidths fun row => length_of_mem_generalRows S element items).2
  rw [rowTexts, List.forall₂_map_left_iff, List.forall₂_same]
  intro texts htexts
  obtain ⟨row, hrow, rfl⟩ := List.mem_map.mp htexts
  exact Fits.standsAt (cells row hrow)

theorem not_mem_rowTexts {c : Char} (other : c ≠ ' ')
    (h : ∀ texts ∈ cellTexts S element items, ∀ text ∈ texts, c ∉ text) :
    ∀ row ∈ rowTexts S element items, c ∉ row := by
  intro row hrow
  obtain ⟨texts, htexts, rfl⟩ := List.mem_map.mp hrow
  exact not_mem_trimEnd (not_mem_filled other (h texts htexts) _)

theorem isLine_headingText (h : ∀ title ∈ titles S element, '\n' ∉ title) :
    IsLine (headingText S element items) :=
  isLine_trimEnd (not_mem_trimEnd (not_mem_filled (by decide) h _))

theorem lines_tableTexts (h : ∀ title ∈ titles S element, '\n' ∉ title) :
    (lines (unlines (tableTexts S element items))).length =
        items.length + 3 + total ((rowTexts S element items).map (·.count '\n')) ∧
      (lines (unlines (tableTexts S element items)) = tableTexts S element items ↔
        ∀ row ∈ rowTexts S element items, '\n' ∉ row) := by
  have heading := isLine_headingText S element items h
  have under := isLine_rule (generalWidths S element items)
  have last := isLine_counted_rows items.length
  constructor
  · rw [length_lines_unlines, length_tableTexts]
    simp [tableTexts, total_append, total, List.count_eq_zero.mpr, heading.1, under.1, last.1]
  · have ends : ∀ l ∈ tableTexts S element items, '\n' ∉ l → IsLine l := by
      simp only [tableTexts, rowTexts, List.cons_append, List.forall_mem_cons,
        List.forall_mem_append, List.forall_mem_map]
      exact ⟨fun _ => heading, fun _ => under, fun _ _ => isLine_trimEnd, fun _ => last,
        List.forall_mem_nil _⟩
    rw [lines_unlines_iff ends]
    simp [tableTexts, or_imp, forall_and, heading.1, under.1, last.1]

end General

/-! ## The law -/

theorem hasLabels_nothing : HasLabels .nothing := ⟨fun e => e.elim, fun e => e.elim⟩

theorem not_mem_title {element : ValueType (Kind Empty)} :
    ∀ title ∈ titles Extension.nothing.schema element, '\n' ∉ title := by
  intro title htitle
  obtain ⟨c, hc, rfl⟩ := List.mem_map.mp htitle
  exact (hasLabels_nothing.columnsOf hc).2

theorem result_eq_general (o : Options) {element : ValueType (Kind Empty)}
    (not_commits : element ≠ .record .commit) (not_files : element ≠ .record .file)
    {items : List (Value (Kind Empty) (Record Empty))} (any : items ≠ []) (origin : Option Nat) :
    result .nothing o (.sequence element items origin) =
      general Extension.nothing.schema o (Extension.nothing.schema.tableOf element items) := by
  obtain ⟨first, rest, rfl⟩ := List.exists_cons_of_ne_nil any
  cases element with
  | record kind =>
    cases kind with
    | commit => exact absurd rfl not_commits
    | file => exact absurd rfl not_files
    | _ => rfl
  | _ => rfl

/-- A sequence of neither commits nor files, with some items in it, is shown as a header, a
rule, a row for each item and a footer. In the header and in each row the columns start at the
same display columns, whatever the characters of the texts are. These are the lines that are
shown, three more than there are items, just if no newline is left in a row; there are as many
lines besides as there are newlines. -/
theorem a_general_table_is_a_grid_unless_a_text_has_lines {o : Options} (plain : o.color = false)
    {element : ValueType (Kind Empty)} (not_commits : element ≠ .record .commit)
    (not_files : element ≠ .record .file) {items : List (Value (Kind Empty) (Record Empty))}
    (any : items ≠ []) (origin : Option Nat) :
    let S := Extension.nothing.schema
    let widths := generalWidths S element items
    let texts := cellTexts S element items
    let shown := result .nothing o (.sequence element items origin)
    ∃ header rows,
      let all := header :: rule widths :: rows ++ [counted items.length "row"]
      shown = unlines all ∧ all.length = items.length + 3 ∧
        List.Forall₂ (StandsAt header) (columnStarts widths) (titles S element) ∧
        List.Forall₂ (fun row => List.Forall₂ (StandsAt row) (columnStarts widths)) rows texts ∧
        (lines shown).length = items.length + 3 + total (rows.map (·.count '\n')) ∧
        (lines shown = all ↔ ∀ row ∈ rows, '\n' ∉ row) ∧
        ((∀ cells ∈ texts, ∀ text ∈ cells, '\n' ∉ text) → ∀ row ∈ rows, '\n' ∉ row) := by
  intro S widths texts shown
  have whole : shown = unlines (tableTexts S element items) := by
    rw [← general_plain S element items plain]
    exact result_eq_general o not_commits not_files any origin
  obtain ⟨count, broken⟩ := lines_tableTexts S element items not_mem_title
  refine ⟨headingText S element items, rowTexts S element items, whole,
    length_tableTexts S element items, forall₂_titles S element items,
    forall₂_cellTexts S element items, ?_, ?_, not_mem_rowTexts S element items (by decide)⟩
  · rw [whole]
    exact count
  · rw [whole]
    exact broken

/-- Two subjects, the first one in characters of two columns each. -/
theorem a_table_of_subjects_has_five_lines :
    let o : Options := ⟨false, 20, 50, none⟩
    let items : List (Value (Kind Empty) (Record Empty)) := [.text "修正", .text "Add a test"]
    o.color = false ∧ (.text : ValueType (Kind Empty)) ≠ .record .commit ∧
      (.text : ValueType (Kind Empty)) ≠ .record .file ∧ items ≠ [] ∧
      (lines (result .nothing o (.sequence .text items none))).length = 5 := by
  intro o items
  have plain : o.color = false := rfl
  have not_commits : (.text : ValueType (Kind Empty)) ≠ .record .commit := nofun
  have not_files : (.text : ValueType (Kind Empty)) ≠ .record .file := nofun
  have any : items ≠ [] := List.cons_ne_nil _ _
  refine ⟨plain, not_commits, not_files, any, ?_⟩
  obtain ⟨header, rows, -, count, -, -, -, whole, single⟩ :=
    a_general_table_is_a_grid_unless_a_text_has_lines plain not_commits not_files any none
  rw [whole.mpr (single (by decide +kernel)), count]
  rfl

/-- A message of two lines breaks the row that it stands in. -/
theorem a_message_of_two_lines_breaks_its_row :
    let v : Value (Kind Empty) (Record Empty) := .sequence .text [.text "Fix\nBody"] none
    Plan.runText Extension.nothing.schema
        (.ofCommits [{ Commit.blank with message := "Fix\nBody" }])
        "Commits.Select(c => c.Message)" = .ok v ∧
      lines (result .nothing ⟨false, 20, 50, none⟩ v) =
        ["Value".toList, "───────".toList, "Fix".toList, "Body".toList, "(1 row)".toList] := by
  refine ⟨?_, ?_⟩
  · cbv
  · decide +kernel

end CommitQuery.Screen
