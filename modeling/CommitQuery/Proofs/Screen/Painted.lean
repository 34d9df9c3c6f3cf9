-- The lines of a table, painted and plain. A painted line is trimmed up to the sequence that
-- ends its last colour, so blanks in that colour stay; they show on no line but their own.
import CommitQuery.Proofs.Screen.Unstyled

namespace CommitQuery.Screen

open CommitQuery.Text

/-! ## Trimmed texts -/

/-- A styled text that may be trimmed as the text that it reads as: a fill may stay of it. -/
structure Trims (s t : List Char) : Prop where
  reads : Reads s t
  kept : ∃ fill, IsFill fill ∧ Reads (trimEnd s) (trimEnd t ++ fill)

theorem isFill_nil : IsFill [] := ⟨List.forall_mem_nil _, List.not_mem_nil⟩

theorem Trims.shows {s t : List Char} (h : Trims s t) :
    Shows (trimEnd s ++ ['\n']) (trimEnd t ++ ['\n']) := by
  obtain ⟨fill, isFill, reads⟩ := h.kept
  exact shows_filled reads isFill

theorem trims_nil : Trims [] [] := ⟨reads_nil, [], isFill_nil, reads_nil⟩

theorem Trims.concat {s t : List Char} (h : Trims s t) {c : Char} (hc : c ≠ '\x1b') :
    Trims (s ++ [c]) (t ++ [c]) := by
  have reads := h.reads.append (reads_self (s := [c]) (NoEscape.cons hc (by decide)))
  refine ⟨reads, ?_⟩
  cases blank : isBlank c with
  | true =>
    have only : ∀ d ∈ [c], isBlank d = true := by simpa using blank
    rw [trimEnd_append_blanks _ only, trimEnd_append_blanks _ only]
    exact h.kept
  | false =>
    rw [trimEnd_eq_self (forall_mem_getLast?_concat.mpr blank),
      trimEnd_eq_self (forall_mem_getLast?_concat.mpr blank)]
    exact ⟨[], isFill_nil, by rwa [List.append_nil]⟩

theorem Trims.bare {s t b : List Char} (h : Trims s t) (hb : NoEscape b) :
    Trims (s ++ b) (t ++ b) := by
  induction b generalizing s t with
  | nil => rwa [List.append_nil, List.append_nil]
  | cons c rest ih =>
    obtain ⟨first, none⟩ := not_or.mp (mt List.mem_cons.mpr hb)
    have more := ih (h.concat (Ne.symm first)) none
    rwa [List.append_assoc, List.append_assoc, List.singleton_append] at more

/-- A text in front is not trimmed if something visible follows it. -/
theorem Trims.behind {s t a b : List Char} (h : Trims s t) (visible : trimEnd t ≠ [])
    (front : Reads a b) : Trims (a ++ s) (b ++ t) := by
  obtain ⟨fill, isFill, reads⟩ := h.kept
  have styled_visible : trimEnd s ≠ [] := by
    intro none
    rw [none] at reads
    exact visible (List.append_eq_nil_iff.mp reads.unstyled_eq.symm).1
  refine ⟨front.append h.reads, fill, isFill, ?_⟩
  rw [trimEnd_append_of_ne_nil a styled_visible, trimEnd_append_of_ne_nil b visible,
    List.append_assoc]
  exact front.append reads

/-- Trimming stops at the sequence that ends a style. -/
theorem trims_styled {s t u v fill : List Char} (h : Reads s t) (hu : Reads u v)
    (ended : u.getLast? = some 'm') (isFill : IsFill fill)
    (filled : t ++ v = trimEnd (t ++ v) ++ fill) : Trims (s ++ u) (t ++ v) := by
  have some_style : u ≠ [] := by
    rintro rfl
    cases ended
  have last : ∀ c ∈ (s ++ u).getLast?, isBlank c = false := by
    rw [getLast?_append_of_ne_nil s some_style, ended]
    rintro c ⟨⟩
    decide
  refine ⟨h.append hu, fill, isFill, ?_⟩
  rw [trimEnd_eq_self last, ← filled]
  exact h.append hu

/-- Something visible, and behind it a fill at most. -/
def Visible (s : List Char) : Prop :=
  ∃ body c fill, s = body ++ c :: fill ∧ isBlank c = false ∧ IsFill fill

theorem Visible.behind {s : List Char} (h : Visible s) (t : List Char) : Visible (t ++ s) := by
  obtain ⟨body, c, fill, rfl, visible, isFill⟩ := h
  exact ⟨t ++ body, c, fill, by rw [List.append_assoc], visible, isFill⟩

theorem Visible.filled {s fill : List Char} (h : Visible s) (hf : IsFill fill) :
    Visible (s ++ fill) := by
  obtain ⟨body, c, last, rfl, visible, isFill⟩ := h
  refine ⟨body, c, last ++ fill, by simp, visible, ?_, ?_⟩
  · intro d hd
    rcases List.mem_append.mp hd with hd | hd
    · exact isFill.1 d hd
    · exact hf.1 d hd
  · rw [List.mem_append, not_or]
    exact ⟨isFill.2, hf.2⟩

theorem Visible.exists_fill {s : List Char} (h : Visible s) :
    ∃ fill, IsFill fill ∧ s = trimEnd s ++ fill := by
  obtain ⟨body, c, fill, rfl, visible, isFill⟩ := h
  refine ⟨fill, isFill, ?_⟩
  have split : body ++ c :: fill = body ++ [c] ++ fill := by simp
  rw [split, trimEnd_append_blank (forall_mem_getLast?_concat.mpr visible) isFill.1]

theorem exists_fill_of_line {s : List Char} (h : '\n' ∉ s) :
    ∃ fill, IsFill fill ∧ s = trimEnd s ++ fill := by
  obtain ⟨blanks, whole, blank⟩ := exists_blanks s
  refine ⟨blanks, ⟨blank, fun newline => h ?_⟩, whole⟩
  rw [whole]
  exact List.mem_append_right _ newline

/-! ## Cells -/

namespace Options

/-- The same options with colours or without. -/
def withColor (o : Options) (on : Bool) : Options := { o with color := on }

end Options

variable (o : Options)

theorem getLast?_paint (c : Color) (text : List Char) :
    ((o.withColor true).paint c text).getLast? = some 'm' := by
  show (foreground c ++ text ++ defaultForeground).getLast? = some 'm'
  exact getLast?_append_of_ne_nil _ (List.cons_ne_nil _ _)

theorem getLast?_bold (c : Color) (text : List Char) :
    ((o.withColor true).bold c text).getLast? = some 'm' := by
  show (foreground c ++ boldOn ++ text ++ stylesOff).getLast? = some 'm'
  exact getLast?_append_of_ne_nil _ (List.cons_ne_nil _ _)

theorem shows_paint (c : Color) {text : List Char} (h : NoEscape text) :
    Shows ((o.withColor true).paint c text) ((o.withColor false).paint c text) :=
  (reads_paint (o.withColor true) c h).shows

theorem shows_bold (c : Color) {text : List Char} (h : NoEscape text) :
    Shows ((o.withColor true).bold c text) ((o.withColor false).bold c text) :=
  (reads_bold (o.withColor true) c h).shows

/-- A painted text on a line of its own. -/
theorem shows_message (c : Color) {text : List Char} (h : NoEscape text) :
    Shows ((o.withColor true).paint c text ++ ['\n'])
      ((o.withColor false).paint c text ++ ['\n']) :=
  (shows_paint o c h).append (shows_self (by decide))

theorem isFill_spaces (count : Nat) : IsFill (List.replicate count ' ') := by
  refine ⟨fun c hc => ?_, fun newline => ?_⟩
  · rw [List.eq_of_mem_replicate hc]
    decide
  · cases List.eq_of_mem_replicate newline

theorem mem_pad {text : List Char} {width : Nat} {align : Align} {c : Char}
    (h : c ∈ pad text width align) : c ∈ text ∨ c = ' ' := by
  cases align with
  | left =>
    rcases List.mem_append.mp h with hc | hc
    · exact .inl hc
    · exact .inr (List.eq_of_mem_replicate hc)
  | right =>
    rcases List.mem_append.mp h with hc | hc
    · exact .inr (List.eq_of_mem_replicate hc)
    · exact .inl hc

theorem mem_pad_of_mem {text : List Char} {c : Char} (h : c ∈ text) (width : Nat) (align : Align) :
    c ∈ pad text width align := by
  cases align with
  | left => exact List.mem_append_left _ h
  | right => exact List.mem_append_right _ h

theorem not_mem_pad {c : Char} (other : c ≠ ' ') {text : List Char} (h : c ∉ text) (width : Nat)
    (align : Align) : c ∉ pad text width align := by
  intro hc
  rcases mem_pad hc with hc | rfl
  · exact h hc
  · exact other rfl

theorem noEscape_pad {text : List Char} (h : NoEscape text) (width : Nat) (align : Align) :
    NoEscape (pad text width align) := not_mem_pad (by decide) h width align

theorem Visible.pad {text : List Char} (h : Visible text) (width : Nat) (align : Align) :
    Visible (pad text width align) := by
  cases align with
  | left => exact h.filled (isFill_spaces _)
  | right => exact h.behind _

/-- A cell that a line can be trimmed behind: what is in a colour ends visibly. -/
structure Cell.Sound (cell : Cell) : Prop where
  noEscape : NoEscape cell.text
  visible : ∀ c, cell.color = some c → Visible cell.text

theorem sound_plain {text : List Char} (h : NoEscape text) : (Cell.plain text).Sound :=
  ⟨h, fun _ hc => nomatch hc⟩

theorem sound_colored (c : Color) {text : List Char} (h : NoEscape text) (visible : Visible text) :
    (Cell.colored c text).Sound := ⟨h, fun _ _ => visible⟩

/-- A cell at its place in a line. -/
def placed (cell : Cell) (place : Align × Nat) : List Char :=
  match cell.color with
  | some c => o.paint c (pad cell.text place.2 place.1)
  | none => pad cell.text place.2 place.1

theorem rowLine_eq (aligns : List Align) (widths : List Nat) (row : List Cell) :
    rowLine o aligns widths row = line (row.zipWith (placed o) (aligns.zip widths)) := rfl

theorem reads_placed {cell : Cell} (h : NoEscape cell.text) (place : Align × Nat) :
    Reads (placed (o.withColor true) cell place) (placed (o.withColor false) cell place) := by
  have padded := noEscape_pad h place.2 place.1
  unfold placed
  split
  · exact reads_paint (o.withColor true) _ padded
  · exact reads_self padded

theorem Trims.placed {s t : List Char} (h : Trims s t) {cell : Cell} (sound : cell.Sound)
    (place : Align × Nat) :
    Trims (s ++ placed (o.withColor true) cell place)
      (t ++ placed (o.withColor false) cell place) := by
  have padded := noEscape_pad sound.noEscape place.2 place.1
  unfold Screen.placed
  split
  · rename_i c color
    obtain ⟨fill, isFill, filled⟩ :=
      (((sound.visible c color).pad place.2 place.1).behind t).exists_fill
    exact trims_styled h.reads (reads_paint (o.withColor true) c padded) (getLast?_paint o c _)
      isFill filled
  · exact h.bare padded

/-! ## Lines -/

/-- What holds of two texts and is kept by the gap and by each pair of cells holds with all
cells behind them. -/
theorem joinCells_steps {P : List Char → List Char → Prop}
    (between : ∀ s t, P s t → P (s ++ gap) (t ++ gap)) {cells shown : List (List Char)}
    (steps : List.Forall₂ (fun u v => ∀ s t, P s t → P (s ++ u) (t ++ v)) cells shown)
    {s t : List Char} (h : P s t) : P (s ++ joinCells cells) (t ++ joinCells shown) := by
  induction steps generalizing s t with
  | nil => simpa [joinCells] using h
  | @cons u v cells shown step steps ih =>
    have first := step s t h
    cases steps with
    | nil => exact first
    | cons next steps =>
      have more := ih (between _ _ first)
      rwa [List.append_assoc, List.append_assoc, List.append_assoc, List.append_assoc,
        ← List.append_assoc u, ← List.append_assoc v] at more

theorem mem_joinCells {cells : List (List Char)} {cell : List Char} (h : cell ∈ cells) {c : Char}
    (hc : c ∈ cell) : c ∈ joinCells cells := by
  induction cells with
  | nil => cases h
  | cons first rest ih =>
    cases rest with
    | nil =>
      rw [List.mem_singleton.mp h] at hc
      exact hc
    | cons next rest =>
      rw [joinCells]
      · rcases List.mem_cons.mp h with rfl | h
        · exact List.mem_append_left _ (List.mem_append_left _ hc)
        · exact List.mem_append_right _ (ih h)
      · exact List.cons_ne_nil _ _

theorem forall₂_zipWith {α β γ δ : Type} {R : γ → δ → Prop} {f : α → β → γ} {g : α → β → δ}
    {items : List α} (h : ∀ a ∈ items, ∀ b, R (f a b) (g a b)) (others : List β) :
    List.Forall₂ R (items.zipWith f others) (items.zipWith g others) := by
  induction items generalizing others with
  | nil => exact .nil
  | cons a rest ih =>
    obtain ⟨first, more⟩ := List.forall_mem_cons.mp h
    cases others with
    | nil => exact .nil
    | cons b others => exact .cons (first b) (ih more others)

theorem trims_cells {row : List Cell} (h : ∀ cell ∈ row, cell.Sound) (places : List (Align × Nat)) :
    Trims (joinCells (row.zipWith (placed (o.withColor true)) places))
      (joinCells (row.zipWith (placed (o.withColor false)) places)) := by
  refine joinCells_steps (P := Trims) (fun _ _ both => both.bare (by decide)) ?_ trims_nil
  exact forall₂_zipWith (fun cell hcell place _ _ both => both.placed o (h cell hcell) place) places

theorem shows_rowLine {row : List Cell} (h : ∀ cell ∈ row, cell.Sound) (aligns : List Align)
    (widths : List Nat) : Shows (rowLine (o.withColor true) aligns widths row)
      (rowLine (o.withColor false) aligns widths row) :=
  (trims_cells o h (aligns.zip widths)).shows

/-- A line of cells behind a first one that may end in anything, with something visible among
the others. -/
theorem shows_line_behind {first : Cell} {row : List Cell} (hf : NoEscape first.text)
    (h : ∀ cell ∈ row, cell.Sound) (place : Align × Nat) {places : List (Align × Nat)}
    (visible : trimEnd (joinCells (row.zipWith (placed (o.withColor false)) places)) ≠ []) :
    Shows (line ((first :: row).zipWith (placed (o.withColor true)) (place :: places)))
      (line ((first :: row).zipWith (placed (o.withColor false)) (place :: places))) := by
  have front := (reads_placed o hf place).append (reads_self (s := gap) (by decide))
  have whole := (trims_cells o h places).behind visible front
  cases row with
  | nil => exact absurd rfl visible
  | cons cell row =>
    cases places with
    | nil => exact absurd rfl visible
    | cons next places => exact whole.shows

/-- A heading that stands on one line. -/
structure Heading.Sound (h : Heading) : Prop where
  noEscape : NoEscape h.title
  line : '\n' ∉ h.title

instance (h : Heading) : Decidable h.Sound :=
  decidable_of_iff (NoEscape h.title ∧ '\n' ∉ h.title)
    ⟨fun both => ⟨both.1, both.2⟩, fun sound => ⟨sound.noEscape, sound.line⟩⟩

/-- The same of texts on one line, which have no newline among the blanks that stay. -/
structure TrimsLine (s t : List Char) : Prop extends Trims s t where
  unbroken : '\n' ∉ t

theorem TrimsLine.heading {s t : List Char} (h : TrimsLine s t) {heading : Heading}
    (sound : heading.Sound) (width : Nat) :
    TrimsLine (s ++ (o.withColor true).bold heading.color (pad heading.title width heading.align))
      (t ++ (o.withColor false).bold heading.color (pad heading.title width heading.align)) := by
  have padded := noEscape_pad sound.noEscape width heading.align
  have unbroken : '\n' ∉ t ++ pad heading.title width heading.align := by
    rw [List.mem_append, not_or]
    exact ⟨h.unbroken, not_mem_pad (by decide) sound.line width heading.align⟩
  obtain ⟨fill, isFill, filled⟩ := exists_fill_of_line unbroken
  have trims := trims_styled h.reads
    (reads_bold (o.withColor true) heading.color padded) (getLast?_bold o _ _) isFill filled
  exact ⟨trims, unbroken⟩

theorem shows_headerLine {headings : List Heading} (h : ∀ heading ∈ headings, heading.Sound)
    (widths : List Nat) : Shows (headerLine (o.withColor true) headings widths)
      (headerLine (o.withColor false) headings widths) := by
  have between : ∀ s t, TrimsLine s t → TrimsLine (s ++ gap) (t ++ gap) := by
    intro s t both
    refine ⟨both.toTrims.bare (by decide), ?_⟩
    rw [List.mem_append, not_or]
    exact ⟨both.unbroken, by decide⟩
  have start : TrimsLine [] [] := ⟨trims_nil, List.not_mem_nil⟩
  refine (joinCells_steps between ?_ start).toTrims.shows
  exact forall₂_zipWith (fun heading hh w _ _ both => both.heading o (h heading hh) w) widths

theorem noEscape_rule (widths : List Nat) : NoEscape (rule widths) := by
  intro start
  cases List.eq_of_mem_replicate start

theorem length_columnWidths {headings : List Heading} {rows : List (List Cell)}
    (h : ∀ row ∈ rows, row.length = headings.length) :
    (columnWidths headings rows).length = headings.length := by
  have kept : ∀ rows : List (List Cell), (∀ row ∈ rows, row.length = headings.length) →
      ∀ widths : List Nat, widths.length = headings.length →
        (rows.foldl (fun widths row =>
          widths.zipWith (fun w cell => max w (displayWidth cell.text)) row) widths).length =
            headings.length := by
    intro rows
    induction rows with
    | nil => exact fun _ _ hw => hw
    | cons row rest ih =>
      intro h widths hw
      obtain ⟨first, more⟩ := List.forall_mem_cons.mp h
      exact ih more _ (by rw [List.length_zipWith, hw, first, min_self])
  exact kept rows h _ (List.length_map ..)

theorem shows_table {headings : List Heading} {rows : List (List Cell)}
    (hh : ∀ heading ∈ headings, heading.Sound)
    (hr : ∀ row ∈ rows, Shows
      (rowLine (o.withColor true) (headings.map (·.align)) (columnWidths headings rows) row)
      (rowLine (o.withColor false) (headings.map (·.align)) (columnWidths headings rows) row)) :
    Shows (table (o.withColor true) headings rows) (table (o.withColor false) headings rows) :=
  ((shows_headerLine o hh _).append (shows_paint o muted (noEscape_rule _))).append
    (.cons (by decide) (shows_flatMap hr))

theorem noEscape_footer_text (count : Nat) {noun : String} (h : NoEscape noun.toList) :
    NoEscape ("(" ++ toString count ++ " " ++ noun ++ (if count = 1 then "" else "s") ++
      ")").toList := by
  simp only [String.toList_append]
  have plural : NoEscape (if count = 1 then "" else "s").toList := by split <;> decide
  exact ((((NoEscape.append (by decide) (noEscape_toString count)).append (by decide)).append
    h).append plural).append (by decide)

theorem shows_footer (count : Nat) {noun : String} (h : NoEscape noun.toList) :
    Shows (footer (o.withColor true) count noun) (footer (o.withColor false) count noun) :=
  shows_message o muted (noEscape_footer_text count h)

end CommitQuery.Screen
