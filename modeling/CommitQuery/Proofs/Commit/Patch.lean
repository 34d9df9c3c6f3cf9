-- A patch as git writes it, line by line, and the law that the files of a written patch
-- are read back, however the lines of each are divided into hunks. What a line of a hunk
-- says does not matter, because after the first hunk only the signs of lines are read.
import CommitQuery.Commit.Patch
import CommitQuery.Proofs.Text.Pieces

namespace CommitQuery

open CommitQuery.Text

/-! ## Files that a patch can tell -/

/-- A path that is written without quotes and found again between others. -/
structure IsPath (path : String) : Prop where
  nonempty : path.toList ≠ []
  unbroken : '\n' ∉ path.toList
  unquoted : '"' ∉ path.toList
  unparted : Text.contains path " b/" = false
  start : ∀ c ∈ path.toList.head?, isBlank c = false
  stop : ∀ c ∈ path.toList.getLast?, isBlank c = false

instance (path : String) : Decidable (IsPath path) :=
  decidable_of_iff (path.toList ≠ [] ∧ '\n' ∉ path.toList ∧ '"' ∉ path.toList ∧
      Text.contains path " b/" = false ∧ path.toList.head?.any isBlank = false ∧
      path.toList.getLast?.any isBlank = false)
    ⟨fun ⟨a, b, c, d, e, g⟩ => ⟨a, b, c, d, (Option.any_eq_false _ _).mp e,
        (Option.any_eq_false _ _).mp g⟩,
      fun ⟨a, b, c, d, e, g⟩ => ⟨a, b, c, d, (Option.any_eq_false _ _).mpr e,
        (Option.any_eq_false _ _).mpr g⟩⟩

/-- Whether a file was made from another one. -/
def ChangeStatus.hasSource : ChangeStatus → Bool
  | .renamed | .copied => true
  | _ => false

/-- A file that a patch can tell: the old path is there for what was made from another
file, and a binary file has no lines. -/
structure FileChange.Writable (f : FileChange) : Prop where
  path : IsPath f.path
  oldPath : ∀ old ∈ f.oldPath, IsPath old
  source : f.oldPath.isSome = f.status.hasSource
  lines : ∀ l ∈ f.lines, IsLine l.text.toList
  binary : f.isBinary = true → f.lines = []

instance (f : FileChange) : Decidable f.Writable :=
  decidable_of_iff (IsPath f.path ∧ (∀ old ∈ f.oldPath, IsPath old) ∧
      f.oldPath.isSome = f.status.hasSource ∧ (∀ l ∈ f.lines, IsLine l.text.toList) ∧
      (f.isBinary = true → f.lines = []))
    ⟨fun ⟨a, b, c, d, e⟩ => ⟨a, b, c, d, e⟩, fun ⟨a, b, c, d, e⟩ => ⟨a, b, c, d, e⟩⟩

/-- A path that is written without quotes, whatever stands in the middle of it. -/
structure IsUnquoted (path : String) : Prop where
  nonempty : path.toList ≠ []
  unbroken : '\n' ∉ path.toList
  unquoted : '"' ∉ path.toList
  start : ∀ c ∈ path.toList.head?, isBlank c = false
  stop : ∀ c ∈ path.toList.getLast?, isBlank c = false

theorem IsPath.isUnquoted {path : String} (h : IsPath path) : IsUnquoted path :=
  ⟨h.nonempty, h.unbroken, h.unquoted, h.start, h.stop⟩

instance (path : String) : Decidable (IsUnquoted path) :=
  decidable_of_iff (path.toList ≠ [] ∧ '\n' ∉ path.toList ∧ '"' ∉ path.toList ∧
      path.toList.head?.any isBlank = false ∧ path.toList.getLast?.any isBlank = false)
    ⟨fun ⟨a, b, c, d, e⟩ =>
        ⟨a, b, c, (Option.any_eq_false _ _).mp d, (Option.any_eq_false _ _).mp e⟩,
      fun ⟨a, b, c, d, e⟩ =>
        ⟨a, b, c, (Option.any_eq_false _ _).mpr d, (Option.any_eq_false _ _).mpr e⟩⟩

/-- A file that a patch can tell all of but for its path, which may hold what separates the
two paths of the line that opens the file. -/
structure FileChange.Tellable (f : FileChange) : Prop where
  path : IsUnquoted f.path
  oldPath : ∀ old ∈ f.oldPath, IsUnquoted old
  source : f.oldPath.isSome = f.status.hasSource
  lines : ∀ l ∈ f.lines, IsLine l.text.toList
  binary : f.isBinary = true → f.lines = []

instance (f : FileChange) : Decidable f.Tellable :=
  decidable_of_iff (IsUnquoted f.path ∧ (∀ old ∈ f.oldPath, IsUnquoted old) ∧
      f.oldPath.isSome = f.status.hasSource ∧ (∀ l ∈ f.lines, IsLine l.text.toList) ∧
      (f.isBinary = true → f.lines = []))
    ⟨fun ⟨a, b, c, d, e⟩ => ⟨a, b, c, d, e⟩, fun ⟨a, b, c, d, e⟩ => ⟨a, b, c, d, e⟩⟩

theorem FileChange.Writable.tellable {f : FileChange} (hf : f.Writable) : f.Tellable :=
  ⟨hf.path.isUnquoted, fun old h => (hf.oldPath old h).isUnquoted, hf.source, hf.lines, hf.binary⟩

theorem FileChange.Tellable.oldPath_eq_none {f : FileChange} (hf : f.Tellable)
    (h : f.status.hasSource = false) : f.oldPath = none := by
  rw [← Option.not_isSome_iff_eq_none, hf.source, h]
  decide

theorem FileChange.Tellable.exists_oldPath {f : FileChange} (hf : f.Tellable)
    (h : f.status.hasSource = true) : ∃ old, f.oldPath = some old := by
  rw [← Option.isSome_iff_exists, hf.source, h]

/-- The path on the old side. -/
def FileChange.source (f : FileChange) : String := f.oldPath.getD f.path

theorem IsUnquoted.isLine {path : String} (h : IsUnquoted path) : IsLine path.toList := by
  refine ⟨h.unbroken, ?_⟩
  intro last
  have blank := h.stop '\r' last
  revert blank
  decide

namespace Patch

/-! ## How a file is written -/

/-- What git keeps at a path: a file, a link or the commit of another repository. -/
inductive Mode
  | file (executable : Bool)
  | link
  | repository
deriving DecidableEq

def Mode.digits : Mode → List Char
  | .file false => "100644".toList
  | .file true => "100755".toList
  | .link => "120000".toList
  | .repository => "160000".toList

/-- Whether two modes are of one kind; any two files are. -/
def Mode.sameKind : Mode → Mode → Bool
  | .file _, .file _ | .link, .link | .repository, .repository => true
  | _, _ => false

/-- A line of a hunk, and whether no newline ends it in the file. -/
structure HunkLine where
  line : DiffLine
  unended : Bool

/-- Lines of a file that stand together, the line numbers where they start on both
sides, and what is written behind these. -/
structure Hunk where
  oldStart : Nat
  newStart : Nat
  heading : String
  lines : List HunkLine

/-- What a patch says of a file beside its change: the modes on both sides, how much of
its source a file still is, the hashes of both sides if they are written, whether the
sides are named where no hunk follows, and the hunks. -/
structure Writing where
  oldMode : Mode
  newMode : Mode
  similarity : Nat
  hashes : Option (String × String)
  namesSides : Bool
  hunks : List Hunk

/-- A writing of a file: its hunks hold the lines of the file, and the kinds of its modes
differ just where the type of the file changed. -/
structure Writing.Fits (w : Writing) (f : FileChange) : Prop where
  lines : w.hunks.flatMap (fun h => h.lines.map (·.line)) = f.lines
  binary : f.isBinary = true → w.hunks = []
  modified : f.status = .modified → w.oldMode.sameKind w.newMode = true
  typeChanged : f.status = .typeChanged → w.oldMode.sameKind w.newMode = false
  hashes : ∀ h ∈ w.hashes, IsLine h.1.toList ∧ IsLine h.2.toList
  headings : ∀ h ∈ w.hunks, IsLine h.heading.toList

instance (w : Writing) (f : FileChange) : Decidable (w.Fits f) :=
  decidable_of_iff (w.hunks.flatMap (fun h => h.lines.map (·.line)) = f.lines ∧
      (f.isBinary = true → w.hunks.isEmpty = true) ∧
      (f.status = .modified → w.oldMode.sameKind w.newMode = true) ∧
      (f.status = .typeChanged → w.oldMode.sameKind w.newMode = false) ∧
      (∀ h ∈ w.hashes, IsLine h.1.toList ∧ IsLine h.2.toList) ∧
      ∀ h ∈ w.hunks, IsLine h.heading.toList)
    ⟨fun ⟨a, b, c, d, e, g⟩ => ⟨a, fun h => List.isEmpty_iff.mp (b h), c, d, e, g⟩,
      fun ⟨a, b, c, d, e, g⟩ => ⟨a, fun h => List.isEmpty_iff.mpr (b h), c, d, e, g⟩⟩

/-! ### Hunks -/

def sign : LineKind → Char
  | .added => '+'
  | .deleted => '-'
  | .context => ' '

def HunkLine.written (l : HunkLine) : List (List Char) :=
  (sign l.line.kind :: l.line.text.toList) ::
    if l.unended then ["\\ No newline at end of file".toList] else []

/-- The numbers of some lines; one line is not counted. -/
def range (start count : Nat) : List Char :=
  Nat.toDigits 10 start ++ if count = 1 then [] else ',' :: Nat.toDigits 10 count

/-- How many lines of a hunk stand on the side that a kind of lines is missing from. -/
def Hunk.countWithout (h : Hunk) (kind : LineKind) : Nat :=
  (h.lines.filter fun l => l.line.kind ≠ kind).length

def Hunk.written (h : Hunk) : List (List Char) :=
  ("@@ -".toList ++ range h.oldStart (h.countWithout .added) ++ " +".toList ++
    range h.newStart (h.countWithout .deleted) ++ " @@".toList ++ h.heading.toList) ::
    h.lines.flatMap HunkLine.written

/-! ### Header lines -/

/-- The modes on both sides, if they differ. -/
def Writing.modeLines (w : Writing) : List (List Char) :=
  if w.oldMode = w.newMode then []
  else ["old mode ".toList ++ w.oldMode.digits, "new mode ".toList ++ w.newMode.digits]

/-- Where a renamed or copied file is from. -/
def Writing.sourceLines (w : Writing) (verb : List Char) (f : FileChange) : List (List Char) :=
  ["similarity index ".toList ++ Nat.toDigits 10 w.similarity ++ ['%'],
   verb ++ " from ".toList ++ f.source.toList,
   verb ++ " to ".toList ++ f.path.toList]

/-- What happened to a file. -/
def Writing.changeLines (w : Writing) (f : FileChange) : List (List Char) :=
  match f.status with
  | .added => ["new file mode ".toList ++ w.newMode.digits]
  | .deleted => ["deleted file mode ".toList ++ w.oldMode.digits]
  | .renamed => w.modeLines ++ w.sourceLines "rename".toList f
  | .copied => w.modeLines ++ w.sourceLines "copy".toList f
  | .modified | .typeChanged => w.modeLines

/-- The hashes on both sides, with the mode if both sides have it. -/
def Writing.hashLines (w : Writing) (f : FileChange) : List (List Char) :=
  match w.hashes with
  | none => []
  | some (old, new) =>
    let mode := if f.status = .added ∨ f.status = .deleted ∨ w.oldMode ≠ w.newMode then []
      else ' ' :: w.newMode.digits
    ["index ".toList ++ old.toList ++ "..".toList ++ new.toList ++ mode]

def oldSide (f : FileChange) : List Char :=
  if f.status = .added then "/dev/null".toList else "a/".toList ++ f.source.toList

def newSide (f : FileChange) : List Char :=
  if f.status = .deleted then "/dev/null".toList else "b/".toList ++ f.path.toList

/-- The tab behind a name with a space in it. -/
def nameEnd (name : List Char) : List Char := if ' ' ∈ name then ['\t'] else []

/-- What stands for the content of a file in front of its hunks. -/
def Writing.contentLines (w : Writing) (f : FileChange) : List (List Char) :=
  if f.isBinary then
    ["Binary files ".toList ++ oldSide f ++ " and ".toList ++ newSide f ++ " differ".toList]
  else if w.namesSides || !w.hunks.isEmpty then
    ["--- ".toList ++ oldSide f ++ nameEnd (oldSide f),
     "+++ ".toList ++ newSide f ++ nameEnd (newSide f)]
  else []

/-! ### Whole patches -/

/-- The two paths of the line that opens a file. -/
def openingText (f : FileChange) : List Char :=
  "a/".toList ++ f.source.toList ++ " b/".toList ++ f.path.toList

def Writing.headerLines (w : Writing) (f : FileChange) : List (List Char) :=
  w.changeLines f ++ w.hashLines f ++ w.contentLines f

def Writing.hunkLines (w : Writing) : List (List Char) := w.hunks.flatMap Hunk.written

/-- The lines of a file. -/
def Writing.lines (w : Writing) (f : FileChange) : List (List Char) :=
  (opening ++ openingText f) :: (w.headerLines f ++ w.hunkLines)

/-- The text of a patch: its files one after the other. -/
def write (files : List (FileChange × Writing)) : String :=
  String.ofList (unlines (files.flatMap fun (f, w) => w.lines f))

/-! ## Paths -/

/-- Blanks behind a path without quotes are no part of it. -/
theorem unquote_append {c : Char} {s t : List Char} (quote : c ≠ '"') (start : isBlank c = false)
    (stop : ∀ d ∈ (c :: s).getLast?, isBlank d = false) (blank : ∀ d ∈ t, isBlank d = true) :
    unquote (c :: s ++ t) = c :: s := by
  have trimmed : trimEnd (trimStart (c :: s ++ t)) = c :: s := by
    rw [trimStart_eq_self (by simpa using start)]
    exact trimEnd_append_blank stop blank
  unfold unquote
  rw [trimmed]
  dsimp only
  split
  · rename_i same
    exact absurd (List.cons.inj same).1 quote
  · rfl

theorem unquote_path {path : String} (h : IsUnquoted path) :
    unquote path.toList = path.toList := by
  obtain ⟨c, rest, hp⟩ := List.exists_cons_of_ne_nil h.nonempty
  have quote : c ≠ '"' := by
    rintro rfl
    exact h.unquoted (by simp [hp])
  have whole := unquote_append quote (h.start c (by simp [hp])) (hp ▸ h.stop) (t := []) (by simp)
  rwa [List.append_nil, ← hp] at whole

theorem blank_nameEnd {name : List Char} : ∀ c ∈ nameEnd name, isBlank c = true := by
  intro c hc
  unfold nameEnd at hc
  split at hc
  · rw [List.mem_singleton.mp hc]
    decide
  · cases hc

/-- A path on the new side is read without its mark and without the tab behind it. -/
theorem newSidePath?_path {path : String} (h : IsUnquoted path) (name : List Char) :
    newSidePath? ("b/".toList ++ path.toList ++ nameEnd name) = some path.toList := by
  have stop : ∀ c ∈ ("b/".toList ++ path.toList).getLast?, isBlank c = false := by
    rw [getLast?_append_of_ne_nil _ h.nonempty]
    exact h.stop
  have unquoted : unquote ("b/".toList ++ path.toList ++ nameEnd name) =
      "b/".toList ++ path.toList := unquote_append (by decide) (by decide) stop blank_nameEnd
  have device : "b/".toList ++ path.toList ≠ "/dev/null".toList := by simp
  unfold newSidePath?
  dsimp only
  rw [unquoted, if_neg device, afterStart?_append]
  rfl

/-- What the line that opens a file is cut at: the last place where a new side can start. -/
theorem openingPath_of_splitLast {f : FileChange} (h : IsUnquoted f.path)
    {before after : List Char}
    (cut : splitLast " b/".toList (openingText f) = some (before, after)) :
    openingPath (openingText f) = unquote after := by
  have stop : ∀ c ∈ (openingText f).getLast?, isBlank c = false := by
    unfold openingText
    rw [getLast?_append_of_ne_nil _ h.nonempty]
    exact h.stop
  have trimmed : trimEnd (trimStart (openingText f)) = openingText f := by
    rw [trimStart_eq_self, trimEnd_eq_self stop]
    intro c hc
    cases hc
    decide
  unfold openingPath
  dsimp only
  rw [trimmed, cut]

/-- A text is cut at the last mark of a new side in it. -/
theorem splitLast_newSide {after : List Char} (h : containsList " b/".toList after = false)
    (before : List Char) :
    splitLast " b/".toList (before ++ " b/".toList ++ after) = some (before, after) := by
  have behind : splitLast " b/".toList ("b/".toList ++ after) = none :=
    splitLast_cons_of_ne (by decide) (splitLast_cons_of_ne (by decide) (splitLast_eq_none h))
  rw [List.append_assoc]
  exact splitLast_append behind before

theorem openingPath_openingText {f : FileChange} (h : IsPath f.path) :
    openingPath (openingText f) = f.path.toList := by
  have cut : splitLast " b/".toList (openingText f) =
      some ("a/".toList ++ f.source.toList, f.path.toList) := splitLast_newSide h.unparted _
  rw [openingPath_of_splitLast h.isUnquoted cut, unquote_path h.isUnquoted]

/-! ## Header lines -/

theorem FileReader.line_of_header {r : FileReader} {line : List Char} {h : Header}
    (hl : header? line = some h) : r.line line = r.header h := by
  unfold FileReader.line
  rw [hl]

theorem FileReader.line_of_none {r : FileReader} {line : List Char} (hl : header? line = none) :
    r.line line = r := by
  unfold FileReader.line
  rw [hl]

theorem objectKind_digits (a b : Mode) :
    objectKind (trimEnd (trimStart a.digits)) = objectKind (trimEnd (trimStart b.digits)) ↔
      a.sameKind b = true := by
  rcases a with (_ | _) | _ | _ <;> rcases b with (_ | _) | _ | _ <;> decide

/-- The file as far as its mode lines tell of it. -/
theorem foldl_modeLines (w : Writing) (r : FileReader) :
    (w.modeLines.foldl FileReader.line r).file =
      if w.oldMode.sameKind w.newMode then r.file else { r.file with status := .typeChanged } := by
  unfold Writing.modeLines
  split
  · rename_i same
    have kind : w.oldMode.sameKind w.newMode = true := by
      rw [← objectKind_digits, same]
    rw [if_pos kind]
    rfl
  · have old : header? ("old mode ".toList ++ w.oldMode.digits) =
      some (.oldMode w.oldMode.digits) := rfl
    have new : header? ("new mode ".toList ++ w.newMode.digits) =
      some (.newMode w.newMode.digits) := rfl
    simp only [List.foldl_cons, List.foldl_nil, FileReader.line_of_header old,
      FileReader.line_of_header new, FileReader.header, objectKind_digits]
    cases w.oldMode.sameKind w.newMode <;> rfl

/-- The file as far as the lines of its source tell of it, for either of their verbs. -/
theorem foldl_sourceLines (w : Writing) {f : FileChange} {old : String} {verb : List Char}
    {status : ChangeStatus} (hp : IsUnquoted f.path) (hold : IsUnquoted old)
    (from_old : f.oldPath = some old)
    (hfrom : ∀ path r, (FileReader.line r (verb ++ " from ".toList ++ path)).file =
      { r.file with oldPath := some (String.ofList (unquote path)), status := status })
    (hto : ∀ path r, (FileReader.line r (verb ++ " to ".toList ++ path)).file =
      { r.file with path := String.ofList (unquote path) }) (r : FileReader) :
    ((w.sourceLines verb f).foldl FileReader.line r).file =
      { r.file with path := f.path, oldPath := f.oldPath, status := status } := by
  have similarity : header? ("similarity index ".toList ++ Nat.toDigits 10 w.similarity ++ ['%']) =
    none := rfl
  have source : f.source = old := by
    unfold FileChange.source
    rw [from_old]
    rfl
  simp only [Writing.sourceLines, List.foldl_cons, List.foldl_nil,
    FileReader.line_of_none similarity, hto, hfrom, source, unquote_path hp, unquote_path hold,
    String.ofList_toList, from_old]

/-- The path that is read from the line that opens a file. -/
def openedPath (f : FileChange) : String := String.ofList (openingPath (openingText f))

/-- What happened to a file is read from the lines that say so. They name the path again if
it has a source. -/
theorem foldl_changeLines {w : Writing} {f : FileChange} (hf : f.Tellable) (hw : w.Fits f) :
    ((w.changeLines f).foldl FileReader.line (FileReader.ofOpening (openingText f))).file =
      ⟨if f.status.hasSource then f.path else openedPath f, f.oldPath, f.status, false, []⟩ := by
  have opened : (FileReader.ofOpening (openingText f)).file =
      ⟨openedPath f, none, .modified, false, []⟩ := rfl
  unfold Writing.changeLines
  cases status : f.status with
  | added =>
    have none := hf.oldPath_eq_none (by rw [status]; rfl)
    have line : header? ("new file mode ".toList ++ w.newMode.digits) = some .newFile := rfl
    simp only [List.foldl_cons, List.foldl_nil, FileReader.line_of_header line, FileReader.header,
      opened, none]
    rfl
  | deleted =>
    have none := hf.oldPath_eq_none (by rw [status]; rfl)
    have line : header? ("deleted file mode ".toList ++ w.oldMode.digits) = some .deletedFile := rfl
    simp only [List.foldl_cons, List.foldl_nil, FileReader.line_of_header line, FileReader.header,
      opened, none]
    rfl
  | modified =>
    have none := hf.oldPath_eq_none (by rw [status]; rfl)
    dsimp only
    rw [foldl_modeLines, hw.modified status, opened, none]
    rfl
  | typeChanged =>
    have none := hf.oldPath_eq_none (by rw [status]; rfl)
    dsimp only
    rw [foldl_modeLines, hw.typeChanged status, opened, none]
    rfl
  | renamed | copied =>
    obtain ⟨old, hold⟩ := hf.exists_oldPath (by rw [status]; rfl)
    dsimp only
    rw [List.foldl_append, foldl_sourceLines w hf.path (hf.oldPath old hold) hold (fun _ _ => rfl)
      (fun _ _ => rfl), foldl_modeLines, opened]
    cases w.oldMode.sameKind w.newMode <;> rfl

theorem foldl_hashLines (w : Writing) (f : FileChange) (r : FileReader) :
    (w.hashLines f).foldl FileReader.line r = r := by
  unfold Writing.hashLines
  split
  · rfl
  · dsimp only
    rw [List.foldl_cons, List.foldl_nil]
    exact FileReader.line_of_none rfl

/-- The line of the new side names the path, unless nothing is left there. -/
theorem line_newSide {f : FileChange} (hp : IsUnquoted f.path) (r : FileReader) :
    (r.line ("+++ ".toList ++ newSide f ++ nameEnd (newSide f))).file =
      { r.file with path := if f.status = .deleted then r.file.path else f.path } := by
  have line : header? ("+++ ".toList ++ newSide f ++ nameEnd (newSide f)) =
    some (.newSide (newSide f ++ nameEnd (newSide f))) := rfl
  rw [FileReader.line_of_header line]
  by_cases gone : f.status = .deleted
  · have device : newSide f = "/dev/null".toList := if_pos gone
    rw [device, if_pos gone]
    rfl
  · have side : newSide f = "b/".toList ++ f.path.toList := if_neg gone
    simp only [FileReader.header]
    rw [side, newSidePath?_path hp, if_neg gone]
    dsimp only
    rw [String.ofList_toList]

/-- Whether a line of the new side names the path of a file. -/
def Writing.namesNewSide (w : Writing) (f : FileChange) : Bool :=
  !f.isBinary && (w.namesSides || !w.hunks.isEmpty) && decide (f.status ≠ .deleted)

theorem foldl_contentLines {w : Writing} {f : FileChange} (hp : IsUnquoted f.path)
    {r : FileReader} {path : String} (hr : r.file = ⟨path, f.oldPath, f.status, false, []⟩) :
    ((w.contentLines f).foldl FileReader.line r).file =
      { f with path := if w.namesNewSide f then f.path else path, lines := [] } := by
  unfold Writing.contentLines Writing.namesNewSide
  split
  · rename_i binary
    have line : header? ("Binary files ".toList ++ oldSide f ++ " and ".toList ++ newSide f ++
      " differ".toList) = some .binary := rfl
    simp only [List.foldl_cons, List.foldl_nil, FileReader.line_of_header line, FileReader.header,
      hr, binary]
    rfl
  · rename_i text
    have text : f.isBinary = false := by simpa using text
    split
    · rename_i sides
      have line : header? ("--- ".toList ++ oldSide f ++ nameEnd (oldSide f)) = none := rfl
      simp only [List.foldl_cons, List.foldl_nil, FileReader.line_of_none line]
      rw [line_newSide hp, hr, text, sides]
      by_cases gone : f.status = .deleted <;> simp [gone]
    · rename_i none
      simp [none, hr, text]

/-- The path of a file as far as its header lines name it. -/
def Writing.readPath (w : Writing) (f : FileChange) : String :=
  if w.namesNewSide f || f.status.hasSource then f.path else openedPath f

/-- All that stands in front of the hunks of a file is read from its header lines. -/
theorem foldl_headerLines {w : Writing} {f : FileChange} (hf : f.Tellable) (hw : w.Fits f) :
    ((w.headerLines f).foldl FileReader.line (FileReader.ofOpening (openingText f))).file =
      { f with path := w.readPath f, lines := [] } := by
  unfold Writing.headerLines Writing.readPath
  rw [List.foldl_append, List.foldl_append, foldl_hashLines,
    foldl_contentLines hf.path (foldl_changeLines hf hw)]
  cases w.namesNewSide f <;> rfl

/-! ## The lines that are written -/

theorem isLine_toDigits (n : Nat) : IsLine (Nat.toDigits 10 n) := by
  have digit : ∀ c ∈ Nat.toDigits 10 n, c.isDigit = true := fun c hc =>
    Nat.isDigit_of_mem_toDigits (by decide) (by decide) hc
  refine ⟨?_, ?_⟩
  · intro newline
    cases digit _ newline
  · intro last
    cases digit _ (List.mem_of_getLast? last)

theorem isLine_digits (m : Mode) : IsLine m.digits := by
  rcases m with (_ | _) | _ | _ <;> decide

theorem isLine_source {f : FileChange} (hf : f.Tellable) : IsLine f.source.toList := by
  unfold FileChange.source
  cases old : f.oldPath with
  | none => exact hf.path.isLine
  | some path => exact (hf.oldPath path old).isLine

theorem isLine_oldSide {f : FileChange} (hf : f.Tellable) : IsLine (oldSide f) := by
  unfold oldSide
  split
  · decide
  · exact .append (by decide) (isLine_source hf)

theorem isLine_newSide {f : FileChange} (hf : f.Tellable) : IsLine (newSide f) := by
  unfold newSide
  split
  · decide
  · exact .append (by decide) hf.path.isLine

theorem isLine_nameEnd (name : List Char) : IsLine (nameEnd name) := by
  unfold nameEnd
  split <;> decide

/-- A line that is taken neither for the opening of a file nor for the start of a hunk. -/
structure Plain (line : List Char) : Prop where
  isLine : IsLine line
  notOpening : afterStart? opening line = none
  notHunk : startsHunk line = false

theorem plain_modeLines (w : Writing) : ∀ l ∈ w.modeLines, Plain l := by
  unfold Writing.modeLines
  split
  · simp
  · simp only [List.forall_mem_cons]
    refine ⟨⟨.append (by decide) (isLine_digits _), rfl, rfl⟩,
      ⟨.append (by decide) (isLine_digits _), rfl, rfl⟩, by simp⟩

theorem plain_sourceLines (w : Writing) {f : FileChange} (hf : f.Tellable) {verb : List Char}
    (hv : verb = "rename".toList ∨ verb = "copy".toList) : ∀ l ∈ w.sourceLines verb f, Plain l := by
  unfold Writing.sourceLines
  simp only [List.forall_mem_cons]
  have similarity : IsLine ("similarity index ".toList ++ Nat.toDigits 10 w.similarity ++ ['%']) :=
    .append (.append (by decide) (isLine_toDigits _)) (by decide)
  rcases hv with rfl | rfl
  · exact ⟨⟨similarity, rfl, rfl⟩, ⟨.append (by decide) (isLine_source hf), rfl, rfl⟩,
      ⟨.append (by decide) hf.path.isLine, rfl, rfl⟩, by simp⟩
  · exact ⟨⟨similarity, rfl, rfl⟩, ⟨.append (by decide) (isLine_source hf), rfl, rfl⟩,
      ⟨.append (by decide) hf.path.isLine, rfl, rfl⟩, by simp⟩

theorem plain_changeLines (w : Writing) {f : FileChange} (hf : f.Tellable) :
    ∀ l ∈ w.changeLines f, Plain l := by
  unfold Writing.changeLines
  split
  · simp only [List.forall_mem_singleton]
    exact ⟨.append (by decide) (isLine_digits _), rfl, rfl⟩
  · simp only [List.forall_mem_singleton]
    exact ⟨.append (by decide) (isLine_digits _), rfl, rfl⟩
  · exact List.forall_mem_append.mpr ⟨plain_modeLines w, plain_sourceLines w hf (.inl rfl)⟩
  · exact List.forall_mem_append.mpr ⟨plain_modeLines w, plain_sourceLines w hf (.inr rfl)⟩
  · exact plain_modeLines w
  · exact plain_modeLines w

theorem plain_hashLines {w : Writing} {f : FileChange} (hw : w.Fits f) :
    ∀ l ∈ w.hashLines f, Plain l := by
  unfold Writing.hashLines
  split
  · simp
  · rename_i old new hashes
    obtain ⟨hold, hnew⟩ := hw.hashes (old, new) hashes
    simp only [List.forall_mem_singleton]
    have mode : IsLine (if f.status = .added ∨ f.status = .deleted ∨ w.oldMode ≠ w.newMode then []
        else ' ' :: w.newMode.digits) := by
      split
      · decide
      · exact .cons (by decide) (isLine_digits _)
    exact ⟨.append (.append (.append (.append (by decide) hold) (by decide)) hnew) mode, rfl, rfl⟩

theorem plain_contentLines (w : Writing) {f : FileChange} (hf : f.Tellable) :
    ∀ l ∈ w.contentLines f, Plain l := by
  have old := isLine_oldSide hf
  have new := isLine_newSide hf
  unfold Writing.contentLines
  split
  · simp only [List.forall_mem_singleton]
    exact ⟨.append (.append (.append (.append (by decide) old) (by decide)) new) (by decide),
      rfl, rfl⟩
  · split
    · simp only [List.forall_mem_cons]
      exact ⟨⟨.append (.append (by decide) old) (isLine_nameEnd _), rfl, rfl⟩,
        ⟨.append (.append (by decide) new) (isLine_nameEnd _), rfl, rfl⟩, by simp⟩
    · simp

theorem plain_headerLines {w : Writing} {f : FileChange} (hf : f.Tellable) (hw : w.Fits f) :
    ∀ l ∈ w.headerLines f, Plain l := by
  unfold Writing.headerLines
  simp only [List.forall_mem_append]
  exact ⟨⟨plain_changeLines w hf, plain_hashLines hw⟩, plain_contentLines w hf⟩

/-! ## Hunks -/

/-- A line that opens no file. -/
structure Inside (line : List Char) : Prop where
  isLine : IsLine line
  notOpening : afterStart? opening line = none

theorem Plain.inside {line : List Char} (h : Plain line) : Inside line := ⟨h.isLine, h.notOpening⟩

/-- Whatever a line says, its sign keeps it from opening a file. -/
theorem inside_hunkLine {l : HunkLine} (hl : IsLine l.line.text.toList) :
    ∀ s ∈ l.written, Inside s := by
  unfold HunkLine.written
  refine List.forall_mem_cons.mpr ⟨⟨.cons ?_ hl, ?_⟩, ?_⟩
  · cases l.line.kind <;> decide
  · cases l.line.kind <;> rfl
  · split
    · rw [List.forall_mem_singleton]
      exact ⟨by decide, rfl⟩
    · simp

theorem filterMap_hunkLine (l : HunkLine) : l.written.filterMap hunkLine? = [l.line] := by
  obtain ⟨⟨kind, text⟩, unended⟩ := l
  cases kind <;> cases unended <;> simp [HunkLine.written, sign, hunkLine?]

theorem isLine_range (start count : Nat) : IsLine (range start count) := by
  unfold range
  refine .append (isLine_toDigits start) ?_
  split
  · decide
  · exact .cons (by decide) (isLine_toDigits count)

theorem inside_hunk {h : Hunk} (heading : IsLine h.heading.toList)
    (hl : ∀ l ∈ h.lines, IsLine l.line.text.toList) : ∀ s ∈ h.written, Inside s := by
  unfold Hunk.written
  refine List.forall_mem_cons.mpr ⟨⟨?_, rfl⟩, ?_⟩
  · exact .append (.append (.append (.append (.append (by decide) (isLine_range _ _)) (by decide))
      (isLine_range _ _)) (by decide)) heading
  · intro s hs
    obtain ⟨l, mem, hs⟩ := List.mem_flatMap.mp hs
    exact inside_hunkLine (hl l mem) s hs

theorem filterMap_hunk (h : Hunk) : h.written.filterMap hunkLine? = h.lines.map (·.line) := by
  unfold Hunk.written
  rw [List.filterMap_cons_none rfl]
  induction h.lines with
  | nil => rfl
  | cons l rest ih =>
    rw [List.flatMap_cons, List.filterMap_append, filterMap_hunkLine, ih]
    rfl

theorem inside_hunkLines {w : Writing} {f : FileChange} (hf : f.Tellable) (hw : w.Fits f) :
    ∀ s ∈ w.hunkLines, Inside s := by
  intro s hs
  obtain ⟨h, mem, hs⟩ := List.mem_flatMap.mp hs
  refine inside_hunk (hw.headings h mem) ?_ s hs
  intro l hl
  refine hf.lines l.line ?_
  rw [← hw.lines]
  exact List.mem_flatMap.mpr ⟨h, mem, List.mem_map_of_mem hl⟩

/-- No line of a file is lost, and none is read twice. -/
theorem filterMap_hunkLines {w : Writing} {f : FileChange} (hw : w.Fits f) :
    w.hunkLines.filterMap hunkLine? = f.lines := by
  rw [← hw.lines]
  unfold Writing.hunkLines
  induction w.hunks with
  | nil => rfl
  | cons h rest ih => rw [List.flatMap_cons, List.filterMap_append, filterMap_hunk, ih,
      List.flatMap_cons]

/-- The hunks of a file start where its header lines end. -/
theorem startsHunk_head_hunkLines (w : Writing) : ∀ s ∈ w.hunkLines.head?, startsHunk s = true := by
  unfold Writing.hunkLines
  cases w.hunks with
  | nil => simp
  | cons h rest =>
    intro s hs
    cases hs
    rfl

/-! ## Files -/

/-- One file is read from its lines, with the path that they name. -/
theorem readFile_tellable {w : Writing} {f : FileChange} (hf : f.Tellable) (hw : w.Fits f) :
    readFile (openingText f) (w.headerLines f ++ w.hunkLines) =
      { f with path := w.readPath f } := by
  have header : ∀ l ∈ w.headerLines f, (!startsHunk l) = true := fun l hl => by
    rw [(plain_headerLines hf hw l hl).notHunk]
    rfl
  have hunks : w.hunkLines.takeWhile (fun l => !startsHunk l) = [] ∧
      w.hunkLines.dropWhile (fun l => !startsHunk l) = w.hunkLines := by
    have first := startsHunk_head_hunkLines w
    cases lines : w.hunkLines with
    | nil => exact ⟨rfl, rfl⟩
    | cons s rest => simp [first s (by rw [lines]; rfl)]
  unfold readFile
  rw [List.takeWhile_append_of_pos header, List.dropWhile_append_of_pos header, hunks.1, hunks.2,
    List.append_nil]
  dsimp only
  rw [foldl_headerLines hf hw, filterMap_hunkLines hw]

theorem readFile_lines {w : Writing} {f : FileChange} (hf : f.Writable) (hw : w.Fits f) :
    readFile (openingText f) (w.headerLines f ++ w.hunkLines) = f := by
  have opened : openedPath f = f.path := by
    unfold openedPath
    rw [openingPath_openingText hf.path, String.ofList_toList]
  rw [readFile_tellable hf.tellable hw, Writing.readPath, opened, ite_self]

theorem sections_append {before : List (List Char)} (h : ∀ s ∈ before, Inside s)
    (rest : List (List Char)) :
    sections (before ++ rest) = (before ++ (sections rest).1, (sections rest).2) := by
  induction before with
  | nil => rfl
  | cons s before ih =>
    obtain ⟨hs, hbefore⟩ := List.forall_mem_cons.mp h
    rw [List.cons_append, sections, ih hbefore, hs.notOpening]
    rfl

/-- The lines of a patch fall into the files that they were written for. -/
theorem sections_tellable {files : List (FileChange × Writing)}
    (h : ∀ fw ∈ files, fw.1.Tellable ∧ fw.2.Fits fw.1) :
    sections (files.flatMap fun (f, w) => w.lines f) =
      ([], files.map fun (f, w) => (openingText f, w.headerLines f ++ w.hunkLines)) := by
  induction files with
  | nil => rfl
  | cons fw rest ih =>
    obtain ⟨⟨hf, hw⟩, hrest⟩ := List.forall_mem_cons.mp h
    obtain ⟨f, w⟩ := fw
    have inside : ∀ s ∈ w.headerLines f ++ w.hunkLines, Inside s :=
      List.forall_mem_append.mpr
        ⟨fun s hs => (plain_headerLines hf hw s hs).inside, inside_hunkLines hf hw⟩
    rw [List.flatMap_cons]
    dsimp only
    rw [Writing.lines, List.cons_append, sections, sections_append inside,
      ih hrest, afterStart?_append, List.append_nil]
    rfl

theorem sections_lines {files : List (FileChange × Writing)}
    (h : ∀ fw ∈ files, fw.1.Writable ∧ fw.2.Fits fw.1) :
    sections (files.flatMap fun (f, w) => w.lines f) =
      ([], files.map fun (f, w) => (openingText f, w.headerLines f ++ w.hunkLines)) :=
  sections_tellable fun fw mem => ⟨(h fw mem).1.tellable, (h fw mem).2⟩

theorem isLine_tellable {w : Writing} {f : FileChange} (hf : f.Tellable) (hw : w.Fits f) :
    ∀ l ∈ w.lines f, IsLine l := by
  unfold Writing.lines
  simp only [List.forall_mem_cons, List.forall_mem_append]
  refine ⟨?_, fun l hl => (plain_headerLines hf hw l hl).isLine,
    fun l hl => (inside_hunkLines hf hw l hl).isLine⟩
  exact .append (by decide)
    (.append (.append (.append (by decide) (isLine_source hf)) (by decide)) hf.path.isLine)

theorem isLine_lines {w : Writing} {f : FileChange} (hf : f.Writable) (hw : w.Fits f) :
    ∀ l ∈ w.lines f, IsLine l := isLine_tellable hf.tellable hw

/-- The files of a written patch are read back, each with the path that its lines name. -/
theorem read_write {files : List (FileChange × Writing)}
    (h : ∀ fw ∈ files, fw.1.Tellable ∧ fw.2.Fits fw.1) :
    read (write files) = files.map fun (f, w) => { f with path := w.readPath f } := by
  have one_line : ∀ l ∈ files.flatMap fun (f, w) => w.lines f, IsLine l := by
    intro l hl
    obtain ⟨fw, mem, hl⟩ := List.mem_flatMap.mp hl
    exact isLine_tellable (h fw mem).1 (h fw mem).2 l hl
  unfold read readFiles write
  rw [String.toList_ofList, lines_unlines one_line, sections_tellable h, List.map_map]
  refine List.map_congr_left fun fw mem => ?_
  exact readFile_tellable (h fw mem).1 (h fw mem).2

/-! ## The law -/

/-- A writing of a file with its lines in the given parts. -/
def Writing.ofParts (f : FileChange) (parts : List (List DiffLine)) : Writing where
  oldMode := .file false
  newMode := if f.status = .typeChanged then .link else .file false
  similarity := 100
  hashes := none
  namesSides := false
  hunks := parts.map fun part => ⟨1, 1, "", part.map (⟨·, false⟩)⟩

theorem Writing.fits_ofParts {f : FileChange} {parts : List (List DiffLine)}
    (h : parts.flatten = f.lines) (hb : f.isBinary = true → parts = []) :
    (Writing.ofParts f parts).Fits f where
  lines := by
    rw [← h]
    simp [ofParts, List.flatMap_map, Function.comp_def, List.flatMap_id']
  binary binary := by simp [ofParts, hb binary]
  modified status := by simp [ofParts, status, Mode.sameKind]
  typeChanged status := by simp [ofParts, status, Mode.sameKind]
  hashes := by simp [ofParts]
  headings h mem := by
    obtain ⟨part, -, rfl⟩ := List.mem_map.mp mem
    exact (by decide : IsLine "".toList)

/-- Every file that a patch can tell can be written with its lines divided into hunks in
any way, and the files of a written patch are read back as they are, in order. -/
theorem a_written_patch_is_read_back :
    (∀ (f : FileChange) (parts : List (List DiffLine)), f.Writable → parts.flatten = f.lines →
      (f.isBinary = true → parts = []) →
        ∃ w : Writing, w.Fits f ∧ w.hunks.map (fun h => h.lines.map (·.line)) = parts) ∧
      ∀ files : List (FileChange × Writing), (∀ fw ∈ files, fw.1.Writable ∧ fw.2.Fits fw.1) →
        read (write files) = files.map (·.1) := by
  refine ⟨?_, ?_⟩
  · intro f parts _ lines binary
    refine ⟨.ofParts f parts, Writing.fits_ofParts lines binary, ?_⟩
    simp [Writing.ofParts, Function.comp_def]
  · intro files h
    have one_line : ∀ l ∈ files.flatMap fun (f, w) => w.lines f, IsLine l := by
      intro l hl
      obtain ⟨fw, mem, hl⟩ := List.mem_flatMap.mp hl
      exact isLine_lines (h fw mem).1 (h fw mem).2 l hl
    unfold read readFiles write
    rw [String.toList_ofList, lines_unlines one_line, sections_lines h, List.map_map]
    refine List.map_congr_left fun fw mem => ?_
    exact readFile_lines (h fw mem).1 (h fw mem).2

/-- A renamed file in two hunks whose lines look like headers, a binary file that was
deleted, and a file that became a link. -/
theorem lines_like_headers_are_read_back :
    let moved : FileChange := ⟨"docs/b c.md", some "b/a.md", .renamed, false,
      [⟨.deleted, "-- a"⟩, ⟨.added, "++ b/other"⟩, ⟨.context, "diff --git x"⟩, ⟨.context, "@@"⟩,
        ⟨.added, "rename to y"⟩]⟩
    let gone : FileChange := ⟨"logo.png", none, .deleted, true, []⟩
    let link : FileChange := ⟨"run", none, .typeChanged, false, []⟩
    let files : List (FileChange × Writing) :=
      [(moved, ⟨.file false, .file true, 90, some ("1111", "2222"), true,
          [⟨1, 1, " fn main", [⟨⟨.deleted, "-- a"⟩, true⟩, ⟨⟨.added, "++ b/other"⟩, false⟩]⟩,
            ⟨9, 9, "", [⟨⟨.context, "diff --git x"⟩, false⟩, ⟨⟨.context, "@@"⟩, false⟩,
              ⟨⟨.added, "rename to y"⟩, true⟩]⟩]⟩),
        (gone, ⟨.file false, .file false, 0, some ("3333", "0000"), false, []⟩),
        (link, ⟨.file false, .link, 0, none, false, []⟩)]
    (∀ fw ∈ files, fw.1.Writable ∧ fw.2.Fits fw.1) ∧ read (write files) = [moved, gone, link] := by
  intro moved gone link files
  have fits : ∀ fw ∈ files, fw.1.Writable ∧ fw.2.Fits fw.1 := by decide +kernel
  exact ⟨fits, a_written_patch_is_read_back.2 files fits⟩

end Patch

end CommitQuery
