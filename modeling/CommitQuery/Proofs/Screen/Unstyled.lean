-- What a painted text shows once its escape sequences are taken out: the text that is
-- painted. A line of painted cells is trimmed while the sequences are in it, so lines are
-- compared up to the blanks at their ends.
import CommitQuery.Proofs.Text.Class
import CommitQuery.Proofs.Text.Pieces
import CommitQuery.Screen.Layout

namespace CommitQuery.Screen

open CommitQuery.Text

/-! ## Escape sequences -/

/-- No escape sequence starts in a text. -/
def NoEscape (s : List Char) : Prop := '\x1b' ∉ s

instance (s : List Char) : Decidable (NoEscape s) := inferInstanceAs (Decidable (¬ _))

theorem NoEscape.append {s t : List Char} (hs : NoEscape s) (ht : NoEscape t) :
    NoEscape (s ++ t) := by
  unfold NoEscape
  rw [List.mem_append, not_or]
  exact ⟨hs, ht⟩

theorem NoEscape.cons {c : Char} {s : List Char} (hc : c ≠ '\x1b') (hs : NoEscape s) :
    NoEscape (c :: s) := by
  unfold NoEscape
  rw [List.mem_cons, not_or]
  exact ⟨hc.symm, hs⟩

theorem NoEscape.of_subset {s t : List Char} (ht : NoEscape t) (h : ∀ c ∈ s, c ∈ t) :
    NoEscape s :=
  fun start => ht (h _ start)

/-- What is left of a text without its escape sequences, each of which ends in an `m`. The
text starts within a sequence or outside. -/
def unstyledFrom : Bool → List Char → List Char
  | _, [] => []
  | true, c :: rest => unstyledFrom (c != 'm') rest
  | false, c :: rest =>
    if c = '\x1b' then unstyledFrom true rest else c :: unstyledFrom false rest

def unstyled (s : List Char) : List Char := unstyledFrom false s

/-- A styled text reads as some text, whatever follows. -/
def Reads (s t : List Char) : Prop := ∀ rest, unstyled (s ++ rest) = t ++ unstyled rest

theorem reads_nil : Reads [] [] := fun _ => rfl

theorem Reads.append {s t u v : List Char} (h : Reads s t) (h' : Reads u v) :
    Reads (s ++ u) (t ++ v) := by
  intro rest
  rw [List.append_assoc, h, h', List.append_assoc]

theorem Reads.unstyled_eq {s t : List Char} (h : Reads s t) : unstyled s = t := by
  have whole := h []
  rwa [List.append_nil, show unstyled [] = [] from rfl, List.append_nil] at whole

theorem reads_self {s : List Char} (h : NoEscape s) : Reads s s := by
  intro rest
  induction s with
  | nil => rfl
  | cons c more ih =>
    obtain ⟨first, none⟩ := not_or.mp (mt List.mem_cons.mpr h)
    show unstyledFrom false (c :: (more ++ rest)) = c :: (more ++ unstyled rest)
    rw [unstyledFrom, if_neg (Ne.symm first)]
    exact congrArg (c :: ·) (ih none)

theorem unstyledFrom_code {code : List Char} (h : 'm' ∉ code) (rest : List Char) :
    unstyledFrom true (code ++ 'm' :: rest) = unstyled rest := by
  induction code with
  | nil => rfl
  | cons c more ih =>
    obtain ⟨first, none⟩ := not_or.mp (mt List.mem_cons.mpr h)
    show unstyledFrom true (c :: (more ++ 'm' :: rest)) = _
    rw [unstyledFrom, bne_iff_ne.mpr (Ne.symm first)]
    exact ih none

theorem reads_escape {code : List Char} (h : 'm' ∉ code) : Reads (escape code) [] := by
  intro rest
  have whole : escape code ++ rest = '\x1b' :: ('[' :: code ++ 'm' :: rest) := by simp [escape]
  rw [whole, unstyled, unstyledFrom, if_pos rfl]
  refine unstyledFrom_code ?_ rest
  rw [List.mem_cons, not_or]
  exact ⟨by decide, h⟩

theorem not_mem_digits {c : Char} (other : isAsciiDigit c = false) (n : Nat) :
    c ∉ (toString n).toList := by
  intro hc
  have digit : c ∈ Nat.toDigits 10 n := by simpa using hc
  rw [isAsciiDigit_of_mem_toDigits digit] at other
  cases other

theorem noEscape_toString (n : Nat) : NoEscape (toString n).toList :=
  not_mem_digits (by decide) n

theorem reads_foreground (c : Color) : Reads (foreground c) [] := by
  refine reads_escape ?_
  have digits := not_mem_digits (show isAsciiDigit 'm' = false by decide)
  simp only [List.mem_append, List.mem_cons, not_or]
  exact ⟨⟨⟨by decide, digits _⟩, by decide, digits _⟩, by decide, digits _⟩

section Painting

variable (o : Options) (c : Color) {text : List Char}

theorem reads_paint (h : NoEscape text) : Reads (o.paint c text) text := by
  unfold Options.paint
  split
  · have default : Reads defaultForeground [] := reads_escape (by decide)
    have painted := ((reads_foreground c).append (reads_self h)).append default
    rwa [List.append_nil] at painted
  · exact reads_self h

theorem reads_bold (h : NoEscape text) : Reads (o.bold c text) text := by
  unfold Options.bold
  split
  · have start : Reads boldOn [] := reads_escape (by decide)
    have off : Reads stylesOff [] := reads_escape (by decide)
    have painted := (((reads_foreground c).append start).append (reads_self h)).append off
    rwa [List.append_nil] at painted
  · exact reads_self h

end Painting

/-! ## Trimmed lines -/

/-- The lines of a text, each without the blanks at its end. -/
def trimmedLines (s : List Char) : List (List Char) := (pieces '\n' s).map trimEnd

/-- Blanks of one line. -/
def IsFill (s : List Char) : Prop := (∀ c ∈ s, isBlank c = true) ∧ '\n' ∉ s

theorem exists_pieces (s : List Char) : ∃ piece more, pieces '\n' s = piece :: more := by
  rw [pieces_eq_splitOn]
  exact List.exists_cons_of_ne_nil (List.splitOn_ne_nil '\n' s)

theorem trimEnd_cons_congr (c : Char) {s t : List Char} (h : trimEnd s = trimEnd t) :
    trimEnd (c :: s) = trimEnd (c :: t) := by
  have kept : ∀ s, trimEnd (c :: s) = trimEnd (c :: trimEnd s) := by
    intro s
    obtain ⟨blanks, whole, blank⟩ := exists_blanks s
    calc trimEnd (c :: s) = trimEnd (c :: trimEnd s ++ blanks) := by rw [List.cons_append, ← whole]
      _ = trimEnd (c :: trimEnd s) := trimEnd_append_blanks _ blank
  rw [kept s, kept t, h]

/-- A character in front does not tell texts apart that have the same lines. -/
theorem trimmedLines_cons (c : Char) {s t : List Char} (h : trimmedLines s = trimmedLines t) :
    trimmedLines (c :: s) = trimmedLines (c :: t) := by
  unfold trimmedLines at h ⊢
  rw [pieces, pieces]
  split
  · exact congrArg ([] :: ·) h
  · obtain ⟨p, ps, hp⟩ := exists_pieces s
    obtain ⟨q, qs, hq⟩ := exists_pieces t
    rw [hp, hq, List.map_cons, List.map_cons, List.cons.injEq] at h
    rw [hp, hq]
    exact List.cons_eq_cons.mpr ⟨trimEnd_cons_congr c h.1, h.2⟩

theorem trimmedLines_fill (s : List Char) {fill : List Char} (h : IsFill fill) :
    trimmedLines (s ++ fill) = trimmedLines s := by
  induction s with
  | nil =>
    have single : pieces '\n' fill = [fill] := by
      rw [pieces_eq_splitOn, List.splitOn_eq_singleton h.2]
    have blank : trimEnd fill = [] := trimEnd_append_blanks [] h.1
    rw [List.nil_append, trimmedLines, single, List.map_singleton, blank]
    rfl
  | cons c rest ih => exact trimmedLines_cons c ih

theorem trimmedLines_newline (s t : List Char) :
    trimmedLines (s ++ '\n' :: t) = trimmedLines s ++ trimmedLines t := by
  simp only [trimmedLines, pieces_eq_splitOn, List.splitOn_append_cons_self, List.map_append]

/-! ## What is shown -/

/-- A styled text shows a text: wherever it stands, it reads as the text but for blanks at the
ends of lines. -/
def Shows (s t : List Char) : Prop :=
  ∃ read, Reads s read ∧
    ∀ before after, trimmedLines (before ++ read ++ after) = trimmedLines (before ++ t ++ after)

theorem Shows.trimmedLines_eq {s t : List Char} (h : Shows s t) :
    trimmedLines (unstyled s) = trimmedLines t := by
  obtain ⟨read, reads, same⟩ := h
  have whole := same [] []
  rwa [List.append_nil, List.append_nil, ← reads.unstyled_eq] at whole

theorem Reads.shows {s t : List Char} (h : Reads s t) : Shows s t := ⟨t, h, fun _ _ => rfl⟩

theorem shows_self {s : List Char} (h : NoEscape s) : Shows s s := (reads_self h).shows

theorem Shows.append {s t u v : List Char} (h : Shows s t) (h' : Shows u v) :
    Shows (s ++ u) (t ++ v) := by
  obtain ⟨first, reads, same⟩ := h
  obtain ⟨second, reads', same'⟩ := h'
  refine ⟨first ++ second, reads.append reads', fun before after => ?_⟩
  calc trimmedLines (before ++ (first ++ second) ++ after)
      = trimmedLines (before ++ first ++ (second ++ after)) := by simp only [List.append_assoc]
    _ = trimmedLines (before ++ t ++ (second ++ after)) := same _ _
    _ = trimmedLines (before ++ t ++ second ++ after) := by simp only [List.append_assoc]
    _ = trimmedLines (before ++ t ++ v ++ after) := same' _ _
    _ = trimmedLines (before ++ (t ++ v) ++ after) := by simp only [List.append_assoc]

theorem Shows.cons {c : Char} (hc : c ≠ '\x1b') {s t : List Char} (h : Shows s t) :
    Shows (c :: s) (c :: t) :=
  (shows_self (s := [c]) (NoEscape.cons hc (by decide))).append h

theorem shows_flatMap {α : Type} {f g : α → List Char} {list : List α}
    (h : ∀ a ∈ list, Shows (f a) (g a)) : Shows (list.flatMap f) (list.flatMap g) := by
  induction list with
  | nil => exact reads_nil.shows
  | cons a rest ih =>
    obtain ⟨first, more⟩ := List.forall_mem_cons.mp h
    exact first.append (ih more)

/-- Blanks at the end of a line are not shown. -/
theorem shows_filled {s t fill : List Char} (h : Reads s (t ++ fill)) (hf : IsFill fill) :
    Shows (s ++ ['\n']) (t ++ ['\n']) := by
  refine ⟨t ++ fill ++ ['\n'], h.append (reads_self (by decide)), fun before after => ?_⟩
  have split : ∀ line : List Char, before ++ (line ++ ['\n']) ++ after =
      before ++ line ++ '\n' :: after := by
    intro line
    simp
  rw [split, split, trimmedLines_newline, trimmedLines_newline, ← List.append_assoc,
    trimmedLines_fill _ hf]

end CommitQuery.Screen
