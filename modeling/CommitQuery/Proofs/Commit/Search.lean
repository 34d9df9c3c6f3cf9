-- What the search for a text finds in the changed lines of a commit: the lines that hold
-- the text in any case, once each and in order. A content test asks whether there is one.
import Mathlib.Algebra.Ring.Nat
import Mathlib.Data.List.Infix
import CommitQuery.Commit.Basic
import CommitQuery.Proofs.Text.Pieces
import CommitQuery.Query.ContentSearch

namespace CommitQuery

open CommitQuery.Text

/-- A changed line that a search asks for: one of some kinds, with a text in it, whatever
the case of their letters. -/
def DiffLine.Shows (kinds : List LineKind) (text : String) (l : DiffLine) : Prop :=
  l.kind ∈ kinds ∧ lowerList text.toList <:+: lowerList l.text.toList

instance (kinds : List LineKind) (text : String) (l : DiffLine) :
    Decidable (l.Shows kinds text) := inferInstanceAs (Decidable (_ ∧ _))

/-- The line that a match is about. -/
def MatchedLine.line (m : MatchedLine) : DiffLine := ⟨m.kind, m.text⟩

/-! ## Content tests -/

/-- The tests of changed lines: those added, those deleted, or both. -/
inductive ContentTest
  | added
  | deleted
  | content
deriving DecidableEq, Repr

namespace ContentTest

def name : ContentTest → String
  | .added => "AddedContains"
  | .deleted => "DeletedContains"
  | .content => "ContentContains"

/-- The kinds of lines that a test reads. -/
def kinds : ContentTest → List LineKind
  | .added => [.added]
  | .deleted => [.deleted]
  | .content => [.added, .deleted]

/-- The search for the lines that a test reads. -/
def search (k : ContentTest) (text : String) : Query.ContentSearch :=
  ⟨text, k.kinds.contains .added, k.kinds.contains .deleted⟩

/-- The test of a file. -/
def ofFile : ContentTest → FileChange → String → Bool
  | .added => FileChange.addedContains
  | .deleted => FileChange.deletedContains
  | .content => FileChange.contentContains

/-- The test of all files of a commit. -/
def ofDiff : ContentTest → Diff → String → Bool
  | .added => Diff.addedContains
  | .deleted => Diff.deletedContains
  | .content => Diff.contentContains

variable (k : ContentTest) (text : String)

theorem wanted_search (kind : LineKind) :
    FileChange.wanted (k.search text).added (k.search text).deleted kind =
      decide (kind ∈ k.kinds) := by
  cases k <;> cases kind <;> rfl

theorem ofDiff_eq (d : Diff) : k.ofDiff d text = d.files.any (k.ofFile · text) := by
  cases k <;> rfl

/-- The matches of a search in a file. -/
def matchesOfFile (f : FileChange) : List MatchedLine :=
  f.matchingLines (k.search text).text (k.search text).added (k.search text).deleted

/-- The matches of a search in the files of a commit. -/
def matchesOf (d : Diff) : List MatchedLine :=
  d.matchingLines (k.search text).text (k.search text).added (k.search text).deleted

theorem lineContains_iff {line : String} :
    lineContains line text = true ↔ lowerList text.toList <:+: lowerList line.toList :=
  containsList_iff

/-- The matches are the lines that show the text, in the order of the patch and with the path
of their file, whatever stood before them. -/
theorem matchesFrom_places (path : String) (before : Option String) (lines : List DiffLine) :
    (FileChange.matchesFrom path text
        (FileChange.wanted (k.search text).added (k.search text).deleted) before lines).map
        (fun m => (m.path, m.line)) =
      (lines.filter fun l => decide (l.Shows k.kinds text)).map (path, ·) := by
  induction lines generalizing before with
  | nil => rfl
  | cons l rest ih =>
    have shows : (decide (l.kind ∈ k.kinds) && lineContains l.text text) = true ↔
        l.Shows k.kinds text := by
      rw [Bool.and_eq_true, decide_eq_true_iff, lineContains_iff]
      rfl
    rw [FileChange.matchesFrom, wanted_search]
    by_cases h : l.Shows k.kinds text
    · rw [if_pos (shows.mpr h), List.filter_cons, if_pos (decide_eq_true h)]
      exact congrArg ((path, l) :: ·) (ih (some l.text))
    · rw [if_neg (mt shows.mp h), List.filter_cons, if_neg (by simpa using h)]
      exact ih (some l.text)

theorem matchesOfFile_places (f : FileChange) :
    (k.matchesOfFile text f).map (fun m => (m.path, m.line)) =
      (f.lines.filter fun l => decide (l.Shows k.kinds text)).map (f.path, ·) :=
  matchesFrom_places k text f.path none f.lines

theorem matchesOfFile_lines (f : FileChange) : (k.matchesOfFile text f).map (·.line) =
    f.lines.filter fun l => decide (l.Shows k.kinds text) := by
  have places := congrArg (List.map Prod.snd) (k.matchesOfFile_places text f)
  simpa [List.map_map, Function.comp_def] using places

/-- The matches of a commit are the lines to show of its files, each with the path of its file. -/
theorem matchesOf_places (d : Diff) : (k.matchesOf text d).map (fun m => (m.path, m.line)) =
    d.files.flatMap fun f =>
      (f.lines.filter fun l => decide (l.Shows k.kinds text)).map (f.path, ·) := by
  show (d.files.flatMap (k.matchesOfFile text)).map _ = _
  rw [List.map_flatMap]
  exact List.flatMap_congr fun f _ => k.matchesOfFile_places text f

theorem any_linesOf {f : FileChange} {kind : LineKind} :
    (f.linesOf kind).any (lineContains · text) = true ↔
      ∃ l ∈ f.lines, l.kind = kind ∧ lowerList text.toList <:+: lowerList l.text.toList := by
  simp only [FileChange.linesOf, List.any_map, List.any_filter, List.any_eq_true,
    Bool.and_eq_true, beq_iff_eq, Function.comp_apply, lineContains_iff]

/-- A test holds of a file that has a line to show. -/
theorem ofFile_iff {f : FileChange} :
    k.ofFile f text = true ↔ ∃ l ∈ f.lines, l.Shows k.kinds text := by
  cases k with
  | added =>
    refine (any_linesOf text).trans ?_
    simp only [DiffLine.Shows, kinds, List.mem_singleton]
  | deleted =>
    refine (any_linesOf text).trans ?_
    simp only [DiffLine.Shows, kinds, List.mem_singleton]
  | content =>
    refine Bool.or_eq_true_iff.trans ((or_congr (any_linesOf text) (any_linesOf text)).trans ?_)
    simp only [DiffLine.Shows, kinds, List.mem_cons, List.not_mem_nil, or_false, or_and_right,
      and_or_left, exists_or]

theorem matchesOfFile_ne_nil {f : FileChange} :
    k.matchesOfFile text f ≠ [] ↔ k.ofFile f text = true := by
  rw [ofFile_iff, Ne, ← List.map_eq_nil_iff (f := MatchedLine.line), matchesOfFile_lines,
    List.filter_eq_nil_iff]
  simp

/-- A commit has matches just if the test holds of its files. -/
theorem matchesOf_ne_nil {d : Diff} : k.matchesOf text d ≠ [] ↔ k.ofDiff d text = true := by
  rw [ofDiff_eq, List.any_eq_true]
  simp only [← matchesOfFile_ne_nil]
  show d.files.flatMap (k.matchesOfFile text) ≠ [] ↔ _
  simp

/-- As many matches as lines to show, over all files of the commit. -/
theorem length_matchesOf (d : Diff) : (k.matchesOf text d).length =
    (d.files.map fun f => f.lines.countP fun l => decide (l.Shows k.kinds text)).sum := by
  have of_file (f : FileChange) : (k.matchesOfFile text f).length =
      f.lines.countP fun l => decide (l.Shows k.kinds text) := by
    rw [List.countP_eq_length_filter, ← matchesOfFile_lines, List.length_map]
  show (d.files.flatMap (k.matchesOfFile text)).length = _
  simp only [List.length_flatMap, of_file]

end ContentTest

end CommitQuery
