-- What cutting a text finds in a text that was put together: its lines, its pieces
-- between separators, a beginning, the last place of another text.
import Mathlib.Data.List.DropRight
import Mathlib.Data.List.TakeWhile
import CommitQuery.Text.Pieces

namespace CommitQuery.Text

/-! ## Runs -/

/-- A run of characters that pass a test is found whole in front of a text that does not
go on with one. -/
theorem span_append {p : Char → Bool} {run after : List Char} (hrun : ∀ c ∈ run, p c = true)
    (hstop : ∀ c ∈ after.head?, p c = false) :
    (run ++ after).takeWhile p = run ∧ (run ++ after).dropWhile p = after := by
  have first : after.takeWhile p = [] ∧ after.dropWhile p = after := by
    cases after with
    | nil => exact ⟨rfl, rfl⟩
    | cons c rest => simp [hstop c rfl]
  rw [List.takeWhile_append_of_pos hrun, List.dropWhile_append_of_pos hrun, first.1, first.2,
    List.append_nil]
  exact ⟨rfl, rfl⟩

/-- What a run leaves does not go on with it. -/
theorem head?_dropWhile {p : Char → Bool} (s : List Char) :
    ∀ c ∈ (s.dropWhile p).head?, p c = false := by
  intro c hc
  have h := List.head?_dropWhile_not p s
  rw [Option.mem_def.mp hc] at h
  exact h

/-! ## Lines -/

/-- A text that can stand on a line of its own: no newline breaks it, and the newline
after it takes no character of it along. -/
def IsLine (s : List Char) : Prop := '\n' ∉ s ∧ s.getLast? ≠ some '\r'

/-- Lines one after the other, each ended by a newline. -/
def unlines (ls : List (List Char)) : List Char := ls.flatMap (· ++ ['\n'])

instance (s : List Char) : Decidable (IsLine s) := inferInstanceAs (Decidable (_ ∧ _))

theorem getLast?_append_of_ne_nil (s : List Char) {t : List Char} (some : t ≠ []) :
    (s ++ t).getLast? = t.getLast? := by
  rw [List.getLast?_append, List.getLast?_eq_some_getLast some, Option.some_or]

theorem forall_mem_getLast?_concat {P : Char → Prop} {s : List Char} {d : Char} :
    (∀ c ∈ (s ++ [d]).getLast?, P c) ↔ P d := by
  rw [List.getLast?_concat]
  simp

theorem IsLine.append {s t : List Char} (hs : IsLine s) (ht : IsLine t) : IsLine (s ++ t) := by
  refine ⟨?_, ?_⟩
  · rw [List.mem_append]
    rintro (h | h)
    · exact hs.1 h
    · exact ht.1 h
  · rw [List.getLast?_append]
    cases last : t.getLast? with
    | none => exact hs.2
    | some c =>
      rw [Option.some_or, ← last]
      exact ht.2

theorem IsLine.cons {c : Char} {s : List Char} (hc : IsLine [c]) (hs : IsLine s) :
    IsLine (c :: s) := hc.append hs

theorem dropReturn_reverse {s : List Char} (h : s.getLast? ≠ some '\r') :
    (dropReturn s.reverse).reverse = s := by
  unfold dropReturn
  split
  · rename_i rest last
    rw [← List.head?_reverse, last] at h
    exact absurd rfl h
  · exact List.reverse_reverse s

/-- A text without newlines goes into the current line. -/
theorem linesFrom_unbroken {s : List Char} (hs : '\n' ∉ s) (line rest : List Char) :
    linesFrom line (s ++ rest) = linesFrom (s.reverse ++ line) rest := by
  induction s generalizing line with
  | nil => rfl
  | cons c s ih =>
    rw [List.mem_cons, not_or] at hs
    obtain ⟨hc, hs⟩ := hs
    rw [List.cons_append, linesFrom, if_neg (Ne.symm hc), ih hs, List.reverse_cons,
      List.append_assoc]
    rfl

theorem linesFrom_append {s : List Char} (hs : '\n' ∉ s) (line rest : List Char) :
    linesFrom line (s ++ '\n' :: rest) =
      (dropReturn (s.reverse ++ line)).reverse :: linesFrom [] rest := by
  rw [linesFrom_unbroken hs, linesFrom, if_pos rfl]

theorem lines_append {s : List Char} (hs : IsLine s) (rest : List Char) :
    lines (s ++ '\n' :: rest) = s :: lines rest := by
  unfold lines
  rw [linesFrom_append hs.1, List.append_nil, dropReturn_reverse hs.2]

/-- Lines that were written are the lines that are read. -/
theorem lines_unlines {ls : List (List Char)} (h : ∀ l ∈ ls, IsLine l) :
    lines (unlines ls) = ls := by
  induction ls with
  | nil => rfl
  | cons l rest ih =>
    obtain ⟨hl, hrest⟩ := List.forall_mem_cons.mp h
    have text : unlines (l :: rest) = l ++ '\n' :: unlines rest := by simp [unlines]
    rw [text, lines_append hl, ih hrest]

/-- A text that is ended has a line more than it has newlines. -/
theorem length_linesFrom_append (line s rest : List Char) :
    (linesFrom line (s ++ '\n' :: rest)).length = s.count '\n' + 1 + (lines rest).length := by
  induction s generalizing line with
  | nil =>
    rw [List.nil_append, linesFrom, if_pos rfl, List.length_cons, List.count_nil]
    exact Nat.add_comm _ _
  | cons c s ih =>
    rw [List.cons_append, linesFrom]
    by_cases newline : c = '\n'
    · rw [if_pos newline, List.length_cons, ih, newline, List.count_cons_self]
      omega
    · rw [if_neg newline, ih, List.count_cons_of_ne newline]

/-- Texts that are ended have a line each, and one more for each newline in them. -/
theorem length_lines_unlines (ls : List (List Char)) :
    (lines (unlines ls)).length = ls.length + total (ls.map (·.count '\n')) := by
  induction ls with
  | nil => rfl
  | cons l rest ih =>
    have text : unlines (l :: rest) = l ++ '\n' :: unlines rest := by simp [unlines]
    rw [text, lines, length_linesFrom_append, ih, List.length_cons, List.map_cons, total]
    omega

/-- A newline in front of a text is a line of its own. -/
theorem lines_newline (s : List Char) : lines ('\n' :: s) = [] :: lines s :=
  lines_append (s := []) (by decide) s

/-- A text that ends with a line is read line by line before what follows it. -/
theorem linesFrom_ended (line s rest : List Char) :
    linesFrom line (s ++ '\n' :: rest) = linesFrom line (s ++ ['\n']) ++ lines rest := by
  induction s generalizing line with
  | nil => simp [linesFrom, lines]
  | cons c s ih =>
    by_cases newline : c = '\n'
    · simp only [List.cons_append, linesFrom, newline, if_true, ih]
    · simp only [List.cons_append, linesFrom, newline, if_false, ih]

theorem lines_append_of_ended {s : List Char} (h : s = [] ∨ s.getLast? = some '\n')
    (rest : List Char) : lines (s ++ rest) = lines s ++ lines rest := by
  rcases h with rfl | last
  · rfl
  · obtain ⟨front, rfl⟩ := List.getLast?_eq_some_iff.mp last
    rw [List.append_assoc, List.singleton_append]
    exact linesFrom_ended [] front rest

/-- Characters that a line holds, the first of them not a carriage return, stay in it
whatever comes behind them. -/
theorem linesFrom_kept {kept : List Char} (some_kept : kept ≠ [])
    (first : kept.head? ≠ some '\r') (behind s : List Char) :
    ∃ tail more, linesFrom (behind ++ kept) s = (kept.reverse ++ tail) :: more := by
  induction s generalizing behind with
  | nil =>
    refine ⟨behind.reverse, [], ?_⟩
    simp [linesFrom, some_kept]
  | cons c rest ih =>
    by_cases newline : c = '\n'
    · have dropped : ∃ kept_behind, dropReturn (behind ++ kept) = kept_behind ++ kept := by
        unfold dropReturn
        split
        · rename_i last same
          cases behind with
          | nil => exact absurd (by rw [← List.nil_append kept, same]; rfl) first
          | cons d behind => exact ⟨behind, (List.cons.inj same).2.symm⟩
        · exact ⟨behind, rfl⟩
      obtain ⟨kept_behind, dropped⟩ := dropped
      refine ⟨kept_behind.reverse, linesFrom [] rest, ?_⟩
      rw [linesFrom, if_pos newline, dropped, List.reverse_append]
    · rw [linesFrom, if_neg newline, ← List.cons_append]
      exact ih (c :: behind)

/-- The beginning of a text is the beginning of its first line. -/
theorem lines_start {start : List Char} (some_start : start ≠ []) (h : IsLine start)
    (rest : List Char) : ∃ tail more, lines (start ++ rest) = (start ++ tail) :: more := by
  have first : start.reverse.head? ≠ some '\r' := by
    rw [List.head?_reverse]
    exact h.2
  obtain ⟨tail, more, found⟩ := linesFrom_kept (by simpa using some_start) first [] rest
  refine ⟨tail, more, ?_⟩
  rw [lines, linesFrom_unbroken h.1, List.append_nil, ← List.nil_append start.reverse, found,
    List.reverse_reverse]

theorem mem_of_mem_dropReturn {line : List Char} {c : Char} (h : c ∈ dropReturn line) :
    c ∈ line := by
  unfold dropReturn at h
  split at h
  · exact List.mem_cons_of_mem _ h
  · exact h

theorem mem_of_mem_linesFrom {line s l : List Char} (hl : l ∈ linesFrom line s) {c : Char}
    (hc : c ∈ l) : c ∈ line ∨ c ∈ s := by
  induction s generalizing line with
  | nil =>
    rw [linesFrom] at hl
    split at hl
    · cases hl
    · rw [List.mem_singleton.mp hl, List.mem_reverse] at hc
      exact .inl hc
  | cons d rest ih =>
    rw [linesFrom] at hl
    split at hl
    · rcases List.mem_cons.mp hl with rfl | hl
      · exact .inl (mem_of_mem_dropReturn (List.mem_reverse.mp hc))
      · rcases ih hl with h | h
        · cases h
        · exact .inr (List.mem_cons_of_mem _ h)
    · rcases ih hl with h | h
      · rcases List.mem_cons.mp h with rfl | h
        · exact .inr List.mem_cons_self
        · exact .inl h
      · exact .inr (List.mem_cons_of_mem _ h)

/-- Every character of a line is one of the text. -/
theorem mem_of_mem_lines {s l : List Char} (hl : l ∈ lines s) {c : Char} (hc : c ∈ l) : c ∈ s := by
  rcases mem_of_mem_linesFrom hl hc with h | h
  · cases h
  · exact h

/-! ## Trimming -/

theorem trimStart_eq_self {s : List Char} (h : ∀ c ∈ s.head?, isBlank c = false) :
    trimStart s = s := by
  cases s with
  | nil => rfl
  | cons c rest => simp [trimStart, h c rfl]

theorem trimEnd_eq_self {s : List Char} (h : ∀ c ∈ s.getLast?, isBlank c = false) :
    trimEnd s = s := by
  have start : trimStart s.reverse = s.reverse := by
    refine trimStart_eq_self ?_
    rw [List.head?_reverse]
    exact h
  unfold trimStart at start
  rw [trimEnd, start, List.reverse_reverse]

/-- Blanks at the end of a text are trimmed. -/
theorem trimEnd_append_blanks (s : List Char) {t : List Char} (ht : ∀ c ∈ t, isBlank c = true) :
    trimEnd (s ++ t) = trimEnd s := by
  have skip : (t.reverse ++ s.reverse).dropWhile isBlank = s.reverse.dropWhile isBlank :=
    List.dropWhile_append_of_pos (by simpa using ht)
  unfold trimEnd
  rw [List.reverse_append, skip]

theorem trimEnd_append_blank {s t : List Char} (hs : ∀ c ∈ s.getLast?, isBlank c = false)
    (ht : ∀ c ∈ t, isBlank c = true) : trimEnd (s ++ t) = s :=
  (trimEnd_append_blanks s ht).trans (trimEnd_eq_self hs)

/-- What trimming takes off is blank. -/
theorem exists_blanks (s : List Char) :
    ∃ blanks, s = trimEnd s ++ blanks ∧ ∀ c ∈ blanks, isBlank c = true :=
  ⟨s.rtakeWhile isBlank, List.rdropWhile_append_rtakeWhile.symm,
    fun _ => List.mem_rtakeWhile_imp⟩

/-- Trimming stops in the last part of a text that is not all blank. -/
theorem trimEnd_append_of_ne_nil (s : List Char) {t : List Char} (h : trimEnd t ≠ []) :
    trimEnd (s ++ t) = s ++ trimEnd t := by
  obtain ⟨blanks, whole, blank⟩ := exists_blanks t
  have last : ∀ c ∈ (s ++ trimEnd t).getLast?, isBlank c = false := by
    rw [getLast?_append_of_ne_nil s h]
    intro c hc
    rw [List.getLast?_eq_some_getLast h] at hc
    cases hc
    exact Bool.eq_false_iff.mpr (List.rdropWhile_last_not isBlank t h)
  calc trimEnd (s ++ t) = trimEnd (s ++ trimEnd t ++ blanks) := by rw [List.append_assoc, ← whole]
    _ = s ++ trimEnd t := trimEnd_append_blank last blank

/-- Trimming stops at the end of a text that ends visibly. -/
theorem trimEnd_append_of_getLast? {s : List Char} (h : ∀ c ∈ s.getLast?, isBlank c = false)
    (t : List Char) : trimEnd (s ++ t) = s ++ trimEnd t := by
  by_cases none : trimEnd t = []
  · obtain ⟨blanks, whole, blank⟩ := exists_blanks t
    rw [none, List.nil_append] at whole
    rw [none, whole, trimEnd_append_blank h blank, List.append_nil]
  · exact trimEnd_append_of_ne_nil s none

theorem trimEnd_ne_nil {s : List Char} {c : Char} (hc : c ∈ s) (visible : isBlank c = false) :
    trimEnd s ≠ [] := by
  intro none
  have blank := List.rdropWhile_eq_nil_iff.mp none c hc
  rw [visible] at blank
  cases blank

/-- What is left of a text that is trimmed at its end starts as the text does. -/
theorem head?_trimEnd {s : List Char} : ∀ c ∈ (trimEnd s).head?, c ∈ s.head? := by
  intro c hc
  obtain ⟨blanks, whole, -⟩ := exists_blanks s
  rw [whole, List.head?_append, Option.mem_def.mp hc]
  rfl

theorem trimStart_trim (line : String) :
    trimStart (trim line).toList = trimEnd (trimStart line.toList) := by
  rw [trim, String.toList_ofList]
  exact trimStart_eq_self fun c hc => head?_dropWhile line.toList c (head?_trimEnd c hc)

/-- Blanks at the end are trimmed once, before or after those at the start. -/
theorem trimEnd_trimStart_trimEnd (s : List Char) :
    trimEnd (trimStart (trimEnd s)) = trimEnd (trimStart s) := by
  obtain ⟨blanks, whole, blank⟩ := exists_blanks s
  conv_rhs => rw [whole]
  rw [trimStart, trimStart, List.dropWhile_append]
  split
  · rename_i none
    rw [List.isEmpty_iff.mp none, List.dropWhile_eq_nil_iff.mpr blank]
  · exact (trimEnd_append_blanks _ blank).symm

/-- The first word of a text does not reach the blanks at its end. -/
theorem takeWhile_trimEnd (s : List Char) :
    (trimEnd s).takeWhile (fun c => !isBlank c) = s.takeWhile (fun c => !isBlank c) := by
  obtain ⟨blanks, whole, blank⟩ := exists_blanks s
  have none : blanks.takeWhile (fun c => !isBlank c) = [] := by
    cases blanks with
    | nil => rfl
    | cons c rest => simp [blank c List.mem_cons_self]
  conv_rhs => rw [whole, List.takeWhile_append, none, List.append_nil]
  split
  · rename_i all
    exact (List.takeWhile_prefix _).eq_of_length all
  · rfl

/-! ## Beginnings -/

theorem afterStart?_append (start s : List Char) : afterStart? start (start ++ s) = some s := by
  simp [afterStart?]

/-! ## Occurrences -/

/-- Whether a text contains another is whether that one is a piece of it. -/
theorem containsList_iff {needle s : List Char} :
    containsList needle s = true ↔ needle <:+: s := by
  induction s with
  | nil => simp [containsList]
  | cons c rest ih =>
    rw [containsList, Bool.or_eq_true, ih, List.isPrefixOf_iff_prefix, List.infix_cons_iff]

/-- A text is split at its first occurrence of another one. -/
theorem splitFirst_eq_some {needle s before after : List Char}
    (h : splitFirst needle s = some (before, after)) :
    s = before ++ needle ++ after ∧
      ∀ front back, s = front ++ needle ++ back → before.length ≤ front.length := by
  induction s generalizing before with
  | nil =>
    rw [splitFirst] at h
    split at h
    · rename_i empty
      cases h
      exact ⟨by simpa using empty, fun _ _ _ => Nat.zero_le _⟩
    · cases h
  | cons c rest ih =>
    rw [splitFirst] at h
    split at h
    · rename_i starts
      cases h
      obtain ⟨back, hback⟩ := List.isPrefixOf_iff_prefix.mp starts
      exact ⟨by simp [← hback], fun _ _ _ => Nat.zero_le _⟩
    · rename_i starts
      obtain ⟨⟨front, back⟩, split, whole⟩ := Option.map_eq_some_iff.mp h
      cases whole
      obtain ⟨rfl, first⟩ := ih split
      refine ⟨rfl, fun front' back' other => ?_⟩
      cases front' with
      | nil =>
        refine absurd (List.isPrefixOf_iff_prefix.mpr ⟨back', ?_⟩) starts
        exact other.symm
      | cons d front' =>
        exact Nat.succ_le_succ (first front' back' (List.cons_eq_cons.mp other).2)

theorem exists_splitFirst {needle s : List Char} (h : needle <:+: s) :
    ∃ before after, splitFirst needle s = some (before, after) := by
  induction s with
  | nil =>
    obtain rfl := List.infix_nil.mp h
    exact ⟨[], [], rfl⟩
  | cons c rest ih =>
    rw [splitFirst]
    split
    · exact ⟨_, _, rfl⟩
    · rename_i starts
      rcases List.infix_cons_iff.mp h with start | later
      · exact absurd (List.isPrefixOf_iff_prefix.mpr start) starts
      · obtain ⟨before, after, split⟩ := ih later
        exact ⟨c :: before, after, by rw [split]; rfl⟩

theorem splitLast_eq_none {needle s : List Char} (h : containsList needle s = false) :
    splitLast needle s = none := by
  induction s with
  | nil => simpa [splitLast, containsList] using h
  | cons c rest ih =>
    rw [containsList, Bool.or_eq_false_iff] at h
    rw [splitLast, ih h.2]
    simp [h.1]

theorem splitLast_cons_of_ne {c d : Char} {needle s : List Char} (other : d ≠ c)
    (h : splitLast (c :: needle) s = none) : splitLast (c :: needle) (d :: s) = none := by
  rw [splitLast, h]
  simp [Ne.symm other]

/-- A text is cut at an occurrence that none begins behind. -/
theorem splitLast_append {c : Char} {needle after : List Char}
    (h : splitLast (c :: needle) (needle ++ after) = none) (before : List Char) :
    splitLast (c :: needle) (before ++ c :: (needle ++ after)) = some (before, after) := by
  induction before with
  | nil =>
    rw [List.nil_append, splitLast, h]
    simp
  | cons d before ih => rw [List.cons_append, splitLast, ih]

/-! ## Pieces -/

theorem cutAt_append {q : Char} {content : List Char} (hq : q ∉ content) (after : List Char) :
    cutAt q (content ++ q :: after) = (content, some after) := by
  induction content with
  | nil => simp [cutAt]
  | cons c rest ih =>
    simp only [List.mem_cons, not_or] at hq
    rw [List.cons_append, cutAt, if_neg (Ne.symm hq.1), ih hq.2]

theorem cutAt_eq_some {q : Char} {s content after : List Char}
    (h : cutAt q s = (content, some after)) : s = content ++ q :: after ∧ q ∉ content := by
  induction s generalizing content with
  | nil => cases h
  | cons c rest ih =>
    rw [cutAt] at h
    split at h
    · rename_i same
      cases h
      exact ⟨by simp [same], by simp⟩
    · rename_i other
      cases hcut : cutAt q rest with
      | mk before found =>
        simp only [hcut, Prod.mk.injEq] at h
        obtain ⟨rfl, rfl⟩ := h
        obtain ⟨rfl, hq⟩ := ih hcut
        exact ⟨rfl, by simp [Ne.symm other, hq]⟩

theorem cutAt_eq_none {q : Char} {s content : List Char} (h : cutAt q s = (content, none)) :
    s = content ∧ q ∉ s := by
  induction s generalizing content with
  | nil =>
    cases h
    exact ⟨rfl, by simp⟩
  | cons c rest ih =>
    rw [cutAt] at h
    split at h
    · cases h
    · rename_i other
      cases hcut : cutAt q rest with
      | mk before found =>
        simp only [hcut, Prod.mk.injEq] at h
        obtain ⟨rfl, rfl⟩ := h
        obtain ⟨rfl, hq⟩ := ih hcut
        exact ⟨rfl, by simp [Ne.symm other, hq]⟩

/-- Lines without newlines are told by their text, whatever they end in. -/
theorem unlines_inj {ls ms : List (List Char)} (hl : ∀ l ∈ ls, '\n' ∉ l) (hm : ∀ m ∈ ms, '\n' ∉ m)
    (same : unlines ls = unlines ms) : ls = ms := by
  have text : ∀ (l : List Char) rest, unlines (l :: rest) = l ++ '\n' :: unlines rest := by
    simp [unlines]
  induction ls generalizing ms with
  | nil =>
    cases ms with
    | nil => rfl
    | cons m ms => simp [unlines] at same
  | cons l ls ih =>
    cases ms with
    | nil => simp [unlines] at same
    | cons m ms =>
      obtain ⟨first, others⟩ := List.forall_mem_cons.mp hl
      obtain ⟨first', others'⟩ := List.forall_mem_cons.mp hm
      have cut := congrArg (cutAt '\n') same
      rw [text, text, cutAt_append first, cutAt_append first'] at cut
      rw [Prod.mk.injEq, Option.some.injEq] at cut
      rw [cut.1, ih others others' cut.2]

theorem pieces_eq_splitOn (separator : Char) (s : List Char) :
    pieces separator s = s.splitOn separator := by
  induction s with
  | nil => rfl
  | cons c rest ih =>
    rw [pieces, ih, List.splitOn_cons_eq_if_modifyHead]
    by_cases same : c = separator
    · simp [same]
    · cases hrest : rest.splitOn separator with
      | nil => exact absurd hrest (List.splitOn_ne_nil separator rest)
      | cons piece more => simp [same]

/-- The first `count` of some pieces, and the others joined again. -/
def gather (separator : Char) : Nat → List (List Char) → List (List Char)
  | _, [] => []
  | 0, ps => [[separator].intercalate ps]
  | count + 1, piece :: ps => piece :: gather separator count ps

theorem gather_nil (separator : Char) (count : Nat) : gather separator count [] = [] := by
  cases count <;> rfl

theorem piecesUpTo_eq_gather (separator : Char) (count : Nat) (s : List Char) :
    piecesUpTo separator (count + 1) s = gather separator count (s.splitOn separator) := by
  induction count generalizing s with
  | zero =>
    have joined : [separator].intercalate (s.splitOn separator) = s :=
      List.intercalate_splitOn separator
    cases pieces : s.splitOn separator with
    | nil => exact absurd pieces (List.splitOn_ne_nil separator s)
    | cons piece more =>
      rw [pieces] at joined
      rw [gather, joined, piecesUpTo]
      simp
  | succ count ih =>
    rw [piecesUpTo]
    split
    · rename_i piece cut
      obtain ⟨rfl, absent⟩ := cutAt_eq_none cut
      rw [List.splitOn_eq_singleton absent, gather, gather_nil]
    · rename_i piece rest cut
      obtain ⟨rfl, absent⟩ := cutAt_eq_some cut
      rw [List.splitOn_append_cons_self_of_not_mem absent, gather, ih]

theorem gather_of_length_le {separator : Char} {count : Nat} {ps : List (List Char)}
    (h : ps.length ≤ count) : gather separator count ps = ps := by
  induction ps generalizing count with
  | nil => exact gather_nil separator count
  | cons piece more ih =>
    cases count with
    | zero => cases h
    | succ count => rw [gather, ih (by simpa using h)]

/-! ## Joined texts -/

/-- What stands in joined texts stands in the separator or in one of them. -/
theorem mem_of_mem_joinWith {separator : String} {texts : List String} {c : Char}
    (h : c ∈ (joinWith separator texts).toList) :
    c ∈ separator.toList ∨ ∃ s ∈ texts, c ∈ s.toList := by
  induction texts with
  | nil => cases h
  | cons s rest ih =>
    cases rest with
    | nil => exact .inr ⟨s, by simp, h⟩
    | cons next rest =>
      rw [joinWith, String.toList_append, String.toList_append, List.mem_append,
        List.mem_append] at h
      · rcases h with (h | h) | h
        · exact .inr ⟨s, by simp, h⟩
        · exact .inl h
        · rcases ih h with h | ⟨t, ht, h⟩
          · exact .inl h
          · exact .inr ⟨t, List.mem_cons_of_mem s ht, h⟩
      · exact List.cons_ne_nil _ _

/-! ## Measures -/

theorem total_append (ns ms : List Nat) : total (ns ++ ms) = total ns + total ms := by
  induction ns with
  | nil => exact (Nat.zero_add _).symm
  | cons n rest ih => rw [List.cons_append, total, total, ih, Nat.add_assoc]

theorem total_eq_zero_iff {ns : List Nat} : total ns = 0 ↔ ∀ n ∈ ns, n = 0 := by
  induction ns with
  | nil => simp [total]
  | cons n rest ih => rw [total, Nat.add_eq_zero_iff, ih, List.forall_mem_cons]

/-! ## Bytes -/

theorem utf8Length_cons (c : Char) (s : List Char) :
    utf8Length (c :: s) = c.utf8Size + utf8Length s := rfl

theorem utf8Length_append (s t : List Char) :
    utf8Length (s ++ t) = utf8Length s + utf8Length t := by
  rw [utf8Length, List.map_append, total_append]
  rfl

theorem utf8Length_pos_iff {s : List Char} : 0 < utf8Length s ↔ s ≠ [] := by
  cases s with
  | nil => simp [utf8Length, total]
  | cons d rest =>
    have size := d.utf8Size_pos
    rw [utf8Length_cons]
    simp only [ne_eq, reduceCtorEq, not_false_eq_true, iff_true]
    omega

/-- The bytes of a beginning are cut off as that beginning. -/
theorem splitBytes?_append (s t : List Char) :
    splitBytes? (utf8Length s) (s ++ t) = some (s, t) := by
  induction s with
  | nil => cases t <;> rfl
  | cons c rest ih =>
    have size := c.utf8Size_pos
    rw [utf8Length_cons, List.cons_append, splitBytes?, if_neg (by omega), if_pos (by omega),
      Nat.add_sub_cancel_left, ih]
    rfl

theorem splitBytes?_utf8Length (s : List Char) : splitBytes? (utf8Length s) s = some (s, []) := by
  simpa using splitBytes?_append s []

theorem splitBytes?_eq_some {count : Nat} {s before after : List Char} :
    splitBytes? count s = some (before, after) ↔
      s = before ++ after ∧ utf8Length before = count := by
  constructor
  · intro h
    induction s generalizing count before with
    | nil =>
      rw [splitBytes?] at h
      split at h
      · cases h
        exact ⟨rfl, Eq.symm ‹_›⟩
      · cases h
    | cons c rest ih =>
      rw [splitBytes?] at h
      split at h
      · cases h
        exact ⟨rfl, Eq.symm ‹_›⟩
      · split at h
        · obtain ⟨⟨front, back⟩, split, whole⟩ := Option.map_eq_some_iff.mp h
          cases whole
          obtain ⟨rfl, bytes⟩ := ih split
          exact ⟨rfl, by rw [utf8Length_cons]; omega⟩
        · cases h
  · rintro ⟨rfl, rfl⟩
    exact splitBytes?_append before after

/-- Beginnings of one text with equally many bytes are the same. -/
theorem append_inj_of_utf8Length {s s' t t' : List Char} (h : s ++ s' = t ++ t')
    (bytes : utf8Length s = utf8Length t) : s = t ∧ s' = t' := by
  have first := splitBytes?_append s s'
  rw [h, bytes, splitBytes?_append] at first
  cases first
  exact ⟨rfl, rfl⟩

end CommitQuery.Text
