-- Where a patch falls apart: in front of every line that opens a file. What stands on one
-- side of such a place has no effect on the files of the other side, because a reader that
-- goes from line to line keeps nothing of the file before when it opens the next one.
import CommitQuery.Commit.Patch
import CommitQuery.Proofs.Text.Pieces

namespace CommitQuery.Patch

open CommitQuery.Text

/-! ## Sections -/

theorem afterStart?_isSome (line : List Char) :
    (afterStart? opening line).isSome = opening.isPrefixOf line := by
  unfold afterStart?
  split
  · rename_i starts
    rw [starts]
    rfl
  · rename_i other
    rw [Bool.not_eq_true] at other
    rw [other]
    rfl

theorem sections_opening {line text : List Char} (h : afterStart? opening line = some text)
    (rest : List (List Char)) :
    sections (line :: rest) = ([], (text, (sections rest).1) :: (sections rest).2) := by
  rw [sections, h]

theorem sections_other {line : List Char} (h : afterStart? opening line = none)
    (rest : List (List Char)) :
    sections (line :: rest) = (line :: (sections rest).1, (sections rest).2) := by
  rw [sections, h]

/-- Whatever stands in front of a line that opens a file, the sections go on there. -/
theorem sections_append_opening {line text : List Char} (h : afterStart? opening line = some text)
    (before rest : List (List Char)) :
    sections (before ++ line :: rest) =
      ((sections before).1, (sections before).2 ++ (sections (line :: rest)).2) := by
  induction before with
  | nil =>
    rw [List.nil_append, sections_opening h]
    rfl
  | cons first before ih =>
    rw [List.cons_append]
    cases opens : afterStart? opening first with
    | some text => rw [sections_opening opens, sections_opening opens, ih, List.cons_append]
    | none => rw [sections_other opens, sections_other opens, ih]

theorem length_sections (ls : List (List Char)) :
    (sections ls).2.length = ls.countP (opening.isPrefixOf ·) := by
  induction ls with
  | nil => rfl
  | cons line rest ih =>
    have opens := afterStart?_isSome line
    cases found : afterStart? opening line with
    | some text =>
      rw [found] at opens
      rw [sections_opening found, List.length_cons, ih, List.countP_cons_of_pos opens.symm]
    | none =>
      rw [found] at opens
      rw [sections_other found, ih, List.countP_cons_of_neg (by rw [← opens]; decide)]

/-! ## Reading line by line -/

/-- A reader of a patch between two lines: the files that are done, and the open file with
whether one of its hunks has started. -/
structure LineReader where
  done : List FileChange
  current : Option (FileReader × Bool)

namespace LineReader

/-- The reader after one more line. -/
def read (r : LineReader) (line : List Char) : LineReader :=
  match afterStart? opening line, r.current with
  | some text, _ => ⟨r.done ++ (r.current.map (·.1.file)).toList, some (.ofOpening text, false)⟩
  | none, none => r
  | none, some (f, true) =>
    let lines := f.file.lines ++ (hunkLine? line).toList
    { r with current := some ({ f with file := { f.file with lines := lines } }, true) }
  | none, some (f, false) =>
    { r with current := some (if startsHunk line then (f, true) else (f.line line, false)) }

/-- The files of the reader, also the one that is still open. -/
def files (r : LineReader) : List FileChange := r.done ++ (r.current.map (·.1.file)).toList

/-- The open file after lines that open none. -/
def continued (f : FileReader) (inHunk : Bool) (ls : List (List Char)) : FileChange :=
  let headers := if inHunk then [] else ls.takeWhile fun line => !startsHunk line
  let hunks := if inHunk then ls else ls.dropWhile fun line => !startsHunk line
  let told := (headers.foldl FileReader.line f).file
  { told with lines := told.lines ++ hunks.filterMap hunkLine? }

theorem continued_nil (f : FileReader) (inHunk : Bool) : continued f inHunk [] = f.file := by
  cases inHunk <;> simp [continued]

theorem continued_hunkLine (f : FileReader) (line : List Char) (rest : List (List Char)) :
    continued f true (line :: rest) =
      continued { f with file := { f.file with
        lines := f.file.lines ++ (hunkLine? line).toList } } true rest := by
  cases sign : hunkLine? line <;> simp [continued, sign]

theorem continued_headerLine (f : FileReader) (line : List Char) (rest : List (List Char)) :
    continued f false (line :: rest) =
      if startsHunk line then continued f true rest else continued (f.line line) false rest := by
  cases starts : startsHunk line with
  | false => simp [continued, starts]
  | true =>
    -- The line that starts a hunk has no sign, so it is no line of the file.
    have unsigned : hunkLine? line = none := by
      unfold startsHunk at starts
      obtain ⟨tail, rfl⟩ := List.isPrefixOf_iff_prefix.mp starts
      rfl
    simp [continued, starts, unsigned]

/-- What a reader makes of some lines: the open file takes those in front of the first
opening, and every opening gives a file that does not depend on the lines before it. -/
theorem files_foldl_read (ls : List (List Char)) (r : LineReader) :
    (ls.foldl read r).files =
      r.done ++ (r.current.map fun (f, inHunk) => continued f inHunk (sections ls).1).toList ++
        (sections ls).2.map fun (text, lines) => continued (.ofOpening text) false lines := by
  induction ls generalizing r with
  | nil =>
    obtain ⟨done, _ | ⟨f, inHunk⟩⟩ := r
    · simp [files, sections]
    · simp [files, sections, continued_nil]
  | cons line rest ih =>
    rw [List.foldl_cons, ih]
    cases opens : afterStart? opening line with
    | some text =>
      obtain ⟨done, _ | ⟨f, inHunk⟩⟩ := r
      · simp [read, opens, sections_opening opens]
      · simp [read, opens, sections_opening opens, continued_nil]
    | none =>
      rw [sections_other opens]
      obtain ⟨done, _ | ⟨f, _ | _⟩⟩ := r
      · simp [read, opens]
      · cases starts : startsHunk line <;> simp [read, opens, continued_headerLine, starts]
      · simp [read, opens, continued_hunkLine]

end LineReader

/-- Header lines add no line to a file. -/
theorem lines_header (f : FileReader) (header : Header) :
    (f.header header).file.lines = f.file.lines := by
  cases header with
  | newMode mode =>
    simp only [FileReader.header]
    split
    · split <;> rfl
    · rfl
  | newSide path =>
    simp only [FileReader.header]
    split <;> rfl
  | _ => rfl

theorem lines_foldl_line (headers : List (List Char)) (f : FileReader) :
    (headers.foldl FileReader.line f).file.lines = f.file.lines := by
  induction headers generalizing f with
  | nil => rfl
  | cons line rest ih =>
    rw [List.foldl_cons, ih]
    unfold FileReader.line
    cases header? line with
    | none => rfl
    | some header => exact lines_header f header

/-- A patch is read line by line, with nothing kept but the open file. -/
theorem read_eq_foldl (patch : String) :
    read patch = ((lines patch.toList).foldl LineReader.read ⟨[], none⟩).files := by
  have file : ∀ text lines, LineReader.continued (.ofOpening text) false lines =
      readFile text lines := by
    intro text lines
    simp [LineReader.continued, readFile, lines_foldl_line, FileReader.ofOpening]
  simp [read, readFiles, LineReader.files_foldl_read, file]

/-! ## The law -/

theorem readFiles_append {p q : List Char} (hp : p = [] ∨ p.getLast? = some '\n')
    (hq : opening <+: q) : readFiles (p ++ q) = readFiles p ++ readFiles q := by
  obtain ⟨rest, rfl⟩ := hq
  obtain ⟨tail, more, first⟩ := lines_start (by decide : opening ≠ []) (by decide) rest
  unfold readFiles
  rw [lines_append_of_ended hp, first, sections_append_opening (afterStart?_append opening tail),
    List.map_append]

/-- A patch may be cut in front of any line that opens a file: the files of both parts, each
read for itself, are the files of the whole, whatever the parts hold. So there is a file for
each line that opens one, lines before the first of them count for nothing, and a reader
that goes from line to line needs to keep nothing but the open file. -/
theorem a_patch_is_read_file_by_file :
    (∀ p q : String, (p = "" ∨ p.toList.getLast? = some '\n') → opening <+: q.toList →
      read (p ++ q) = read p ++ read q) ∧
    (∀ patch : String, (read patch).length =
      (lines patch.toList).countP (opening.isPrefixOf ·)) ∧
    (∀ p q : String, (p = "" ∨ p.toList.getLast? = some '\n') →
      (∀ line ∈ lines p.toList, ¬opening <+: line) → opening <+: q.toList →
      read (p ++ q) = read q) ∧
    ∀ patch : String,
      read patch = ((lines patch.toList).foldl LineReader.read ⟨[], none⟩).files := by
  have apart : ∀ p q : String, (p = "" ∨ p.toList.getLast? = some '\n') → opening <+: q.toList →
      read (p ++ q) = read p ++ read q := by
    intro p q hp hq
    unfold read
    rw [String.toList_append]
    exact readFiles_append (hp.imp_left fun h => by rw [h]; rfl) hq
  have counted : ∀ patch : String, (read patch).length =
      (lines patch.toList).countP (opening.isPrefixOf ·) := by
    intro patch
    unfold read readFiles
    rw [List.length_map, length_sections]
  refine ⟨apart, counted, ?_, read_eq_foldl⟩
  intro p q hp none hq
  have empty : (read p).length = 0 := by
    rw [counted, List.countP_eq_zero]
    intro line hline starts
    exact none line hline (List.isPrefixOf_iff_prefix.mp starts)
  rw [apart p q hp hq, List.length_eq_zero_iff.mp empty, List.nil_append]

/-- Lines of a hunk that belong to no file, and behind them a file with a mode of the old side
only in front of one with a mode of the new side only. -/
theorem a_broken_patch_is_read_file_by_file :
    let p := "+lost\n@@ -1 +1 @@\n"
    let q := "diff --git a/x b/x\nold mode 120000\ndiff --git a/y b/y\nnew mode 100644\n"
    (p.toList.getLast? = some '\n' ∧ opening <+: q.toList ∧
      ∀ line ∈ lines p.toList, ¬opening <+: line) ∧
      read (p ++ q) = read p ++ read q ∧ (read q).length = 2 ∧ read (p ++ q) = read q := by
  intro p q
  have hp : p.toList.getLast? = some '\n' := by decide
  have hq : opening <+: q.toList := by decide
  have none : ∀ line ∈ lines p.toList, ¬opening <+: line := by decide
  obtain ⟨apart, counted, before, -⟩ := a_patch_is_read_file_by_file
  refine ⟨⟨hp, hq, none⟩, apart p q (.inr hp) hq, ?_, before p q (.inr hp) none hq⟩
  rw [counted]
  decide

end CommitQuery.Patch
