-- Which path a patch of one file is read with. A line of the new side names the path and
-- nothing else; the line that opens the file names it twice, and the two names are told
-- apart by the last ` b/` in it, which may lie inside the path.
import CommitQuery.Proofs.Commit.Patch

namespace CommitQuery.Patch

open CommitQuery.Text

/-! ## Patches of one file -/

/-- What a patch can tell of a file that keeps its path. -/
inductive Touch
  | deletion
  | emptyAddition
  | modeChange
  | binaryChange
  | textChange
deriving DecidableEq

/-- Whether a file and its writing are of a kind. Only text that is there on some side has
hunks, and without hunks no side is named. -/
def Touch.Matches (t : Touch) (f : FileChange) (w : Writing) : Prop :=
  match t with
  | .deletion => f.status = .deleted
  | .emptyAddition =>
    f.status = .added ∧ f.isBinary = false ∧ w.hunks.isEmpty = true ∧ w.namesSides = false
  | .modeChange =>
    (f.status = .modified ∨ f.status = .typeChanged) ∧ f.isBinary = false ∧
      w.hunks.isEmpty = true ∧ w.namesSides = false ∧ w.oldMode ≠ w.newMode
  | .binaryChange => f.status = .modified ∧ f.isBinary = true
  | .textChange => f.status = .modified ∧ f.isBinary = false ∧ w.hunks.isEmpty = false

instance (t : Touch) (f : FileChange) (w : Writing) : Decidable (t.Matches f w) := by
  unfold Touch.Matches
  cases t <;> infer_instance

namespace Touch

variable {t : Touch} {f : FileChange} {w : Writing}

theorem Matches.hasSource (h : t.Matches f w) : f.status.hasSource = false := by
  cases t with
  | deletion => rw [show f.status = .deleted from h]; rfl
  | emptyAddition => rw [h.1]; rfl
  | modeChange => rcases h.1 with status | status <;> rw [status] <;> rfl
  | binaryChange => rw [h.1]; rfl
  | textChange => rw [h.1]; rfl

/-- Of all these patches, only that of changed text has a line that names the new side. -/
theorem Matches.namesNewSide (h : t.Matches f w) :
    w.namesNewSide f = decide (t = .textChange) := by
  cases t with
  | deletion => simp [Writing.namesNewSide, show f.status = .deleted from h]
  | emptyAddition =>
    obtain ⟨-, -, hunks, sides⟩ := h
    simp [Writing.namesNewSide, hunks, sides]
  | modeChange =>
    obtain ⟨-, -, hunks, sides, -⟩ := h
    simp [Writing.namesNewSide, hunks, sides]
  | binaryChange =>
    obtain ⟨-, binary⟩ := h
    simp [Writing.namesNewSide, binary]
  | textChange =>
    obtain ⟨status, text, hunks⟩ := h
    simp [Writing.namesNewSide, status, text, hunks]

theorem Matches.readPath (h : t.Matches f w) :
    w.readPath f = if t = .textChange then f.path else openedPath f := by
  unfold Writing.readPath
  rw [h.namesNewSide, h.hasSource, Bool.or_false]
  simp only [decide_eq_true_eq]

end Touch

/-! ## The path of the opening line -/

/-- The first line of a patch of one file. -/
theorem write_eq_opening {f : FileChange} (h : f.oldPath = none) (w : Writing) :
    ∃ rest, (write [(f, w)]).toList = "diff --git a/".toList ++ f.path.toList ++ " b/".toList ++
      f.path.toList ++ '\n' :: rest := by
  have source : f.source = f.path := by
    unfold FileChange.source
    rw [h]
    rfl
  have start : "diff --git a/".toList = opening ++ "a/".toList := by decide
  refine ⟨unlines (w.headerLines f ++ w.hunkLines), ?_⟩
  unfold write
  rw [String.toList_ofList, List.flatMap_singleton]
  unfold Writing.lines unlines openingText
  rw [List.flatMap_cons, source, start]
  simp only [List.append_assoc, List.singleton_append]

/-- A path without a mark of the new side in it is found behind the mark in front of it. -/
theorem openedPath_of_unparted {f : FileChange} (h : IsUnquoted f.path)
    (unparted : contains f.path " b/" = false) : openedPath f = f.path := by
  unfold openedPath
  rw [openingPath_of_splitLast h (splitLast_newSide unparted _), unquote_path h,
    String.ofList_toList]

theorem unquote_eq_trimStart {s : List Char} (unquoted : '"' ∉ s)
    (stop : ∀ c ∈ s.getLast?, isBlank c = false) : unquote s = trimStart s := by
  have suffix : trimStart s <:+ s := List.dropWhile_suffix isBlank
  have trimmed : trimEnd (trimStart s) = trimStart s := by
    refine trimEnd_eq_self fun c last => stop c ?_
    obtain ⟨front, whole⟩ := suffix
    have some_rest : trimStart s ≠ [] := by
      intro none
      rw [none] at last
      cases last
    rw [← whole, getLast?_append_of_ne_nil _ some_rest]
    exact last
  unfold unquote
  rw [trimmed]
  dsimp only
  split
  · rename_i rest quote
    exact absurd (suffix.mem (by rw [quote]; exact List.mem_cons_self)) unquoted
  · rfl

/-- Of a path with marks of the new side in it, what is behind the last of them is read. -/
theorem openedPath_of_parted {f : FileChange} (h : IsUnquoted f.path) {before after : List Char}
    (parted : f.path.toList = before ++ " b/".toList ++ after)
    (last : containsList " b/".toList after = false) :
    openedPath f = String.ofList (trimStart after) := by
  have cut : splitLast " b/".toList (openingText f) =
      some ("a/".toList ++ f.source.toList ++ " b/".toList ++ before, after) := by
    unfold openingText
    rw [parted, ← List.append_assoc, ← List.append_assoc]
    exact splitLast_newSide last _
  have stop : ∀ c ∈ after.getLast?, isBlank c = false := by
    intro c hc
    refine h.stop c ?_
    have some_after : after ≠ [] := by
      intro none
      rw [none] at hc
      cases hc
    rw [parted, getLast?_append_of_ne_nil _ some_after]
    exact hc
  have unquoted : '"' ∉ after := by
    intro quote
    refine h.unquoted ?_
    rw [parted]
    exact List.mem_append_right _ quote
  unfold openedPath
  rw [openingPath_of_splitLast h cut, unquote_eq_trimStart unquoted stop]

/-- A text with marks of the new side in it has a last one. -/
theorem exists_last_part {path : List Char} (h : containsList " b/".toList path = true) :
    ∃ before after, path = before ++ " b/".toList ++ after ∧
      containsList " b/".toList after = false := by
  induction path with
  | nil => cases h
  | cons c rest ih =>
    cases more : containsList " b/".toList rest with
    | true =>
      obtain ⟨before, after, rfl, last⟩ := ih more
      exact ⟨c :: before, after, rfl, last⟩
    | false =>
      rw [containsList, more, Bool.or_false] at h
      obtain ⟨after, whole⟩ := List.isPrefixOf_iff_prefix.mp h
      refine ⟨[], after, whole.symm, ?_⟩
      have behind : after <:+ rest := ⟨"b/".toList, (List.cons.inj whole).2⟩
      rw [Bool.eq_false_iff, Ne, containsList_iff] at more ⊢
      exact fun found => more (found.trans behind.isInfix)

/-- What is read of a path with marks in it is shorter than the path. -/
theorem openedPath_ne_of_parted {f : FileChange} (h : IsUnquoted f.path)
    (parted : contains f.path " b/" = true) : openedPath f ≠ f.path := by
  obtain ⟨before, after, whole, last⟩ := exists_last_part parted
  intro same
  rw [openedPath_of_parted h whole last, ← String.toList_inj, String.toList_ofList, whole] at same
  have shorter : (trimStart after).length ≤ after.length :=
    (List.dropWhile_suffix isBlank).length_le
  have length := congrArg List.length same
  rw [List.length_append, List.length_append] at length
  have mark : " b/".toList.length = 3 := rfl
  omega

/-! ## The law -/

/-- The patch of one file that keeps its path is read as that file, if the patch is one of
changed text or no ` b/` is in the path. Of any other path, what is behind the last ` b/` of
it is read in its place, so the path is read whole in no other case. -/
theorem a_path_is_read_whole_unless_it_is_parted (t : Touch) (f : FileChange) (w : Writing)
    (hf : f.Tellable) (hw : w.Fits f) (ht : t.Matches f w) :
    (∃ rest, (write [(f, w)]).toList = "diff --git a/".toList ++ f.path.toList ++ " b/".toList ++
        f.path.toList ++ '\n' :: rest) ∧
      (t = .textChange ∨ contains f.path " b/" = false → read (write [(f, w)]) = [f]) ∧
      (∀ before after : String, t ≠ .textChange → f.path = before ++ " b/" ++ after →
        contains after " b/" = false →
        read (write [(f, w)]) = [{ f with path := String.ofList (trimStart after.toList) }]) ∧
      ((read (write [(f, w)])).map (·.path) = [f.path] ↔
        t = .textChange ∨ contains f.path " b/" = false) := by
  have files : read (write [(f, w)]) =
      [{ f with path := if t = .textChange then f.path else openedPath f }] := by
    rw [read_write (by simpa using ⟨hf, hw⟩), ← ht.readPath]
    rfl
  have whole : t = .textChange ∨ contains f.path " b/" = false →
      (if t = .textChange then f.path else openedPath f) = f.path := by
    rintro (text | unparted)
    · exact if_pos text
    · rw [openedPath_of_unparted hf.path unparted, ite_self]
  refine ⟨write_eq_opening (hf.oldPath_eq_none ht.hasSource) w, ?_, ?_, ?_⟩
  · intro h
    rw [files, whole h]
  · intro before after other parted last
    have path : f.path.toList = before.toList ++ " b/".toList ++ after.toList := by
      rw [parted, String.toList_append, String.toList_append]
    rw [files, if_neg other, openedPath_of_parted hf.path path last]
  · refine ⟨?_, ?_⟩
    · intro same
      rw [files] at same
      by_cases text : t = .textChange
      · exact .inl text
      · refine .inr (Bool.eq_false_iff.mpr fun parted => ?_)
        rw [if_neg text] at same
        exact openedPath_ne_of_parted hf.path parted (List.cons.inj same).1
    · intro h
      rw [files, whole h]
      rfl

/-- A line added to a file below a directory that ends in ` b`. -/
theorem a_path_with_a_mark_is_read_from_changed_text :
    let f : FileChange := ⟨"plan b/notes.txt", none, .modified, false, [⟨.added, "x"⟩]⟩
    let w : Writing := ⟨.file false, .file false, 0, some ("1111", "2222"), false,
      [⟨1, 2, "", [⟨⟨.added, "x"⟩, false⟩]⟩]⟩
    f.Tellable ∧ w.Fits f ∧ Touch.textChange.Matches f w ∧ read (write [(f, w)]) = [f] := by
  intro f w
  have hf : f.Tellable := by decide +kernel
  have hw : w.Fits f := by decide +kernel
  have ht : Touch.textChange.Matches f w := by decide +kernel
  exact ⟨hf, hw, ht,
    (a_path_is_read_whole_unless_it_is_parted .textChange f w hf hw ht).2.1 (.inl rfl)⟩

/-- The same file when it is deleted: its directory is lost. -/
theorem a_deleted_path_with_a_mark_is_cut :
    let f : FileChange := ⟨"plan b/notes.txt", none, .deleted, false, [⟨.deleted, "x"⟩]⟩
    let w : Writing := ⟨.file false, .file false, 0, some ("1111", "0000"), false,
      [⟨1, 0, "", [⟨⟨.deleted, "x"⟩, false⟩]⟩]⟩
    f.Tellable ∧ w.Fits f ∧ Touch.deletion.Matches f w ∧
      read (write [(f, w)]) = [{ f with path := "notes.txt" }] ∧
      (read (write [(f, w)])).map (·.path) ≠ [f.path] := by
  decide +kernel

end CommitQuery.Patch
