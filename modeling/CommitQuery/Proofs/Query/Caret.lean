-- Where the caret stands below a query that cannot be read. The line above it is the text
-- without its newlines, but the column counts them: the caret is too far to the right by the
-- newlines in front of the error, as long as the line goes on.
import CommitQuery.Proofs.Query.Errors
import CommitQuery.Proofs.Query.Words

namespace CommitQuery.Query

open CommitQuery.Text

/-! ## The place of an error -/

/-- Every error is at the end of the text or at a character that is no blank. -/
theorem exists_place_of_error {query : String} {bad : Malformed}
    (h : Expr.parse query = .error bad) :
    ∃ before after, query.toList = before ++ after ∧ bad.position = before.length ∧
      ∀ c ∈ after.head?, isBlank c = false := by
  rcases bind_eq_error.mp h with failed | ⟨ts, hts, reading⟩
  · obtain ⟨before, c, back, ts, whole, place, visible, -⟩ :=
      exists_front_of_error 0 query.toList failed
    rw [Nat.zero_add] at place
    exact ⟨before, c :: back, whole, place, fun d hd => Option.some.inj hd ▸ visible⟩
  · have cuts := cuts_of_tokensFrom 0 query.toList hts
    rcases bind_eq_error.mp reading with failed | ⟨r, -, ended⟩
    · obtain ⟨front, t, rest, r, split, -, -, rfl⟩ := read_eq_error failed
      obtain ⟨before, c, back, whole, place, visible⟩ :=
        cuts.token_start (t := t) (by simp [split])
      rw [Nat.zero_add] at place
      exact ⟨before, c :: back, whole, place, fun d hd => Option.some.inj hd ▸ visible⟩
    · have stop := cuts.stop_eq
      rw [Nat.zero_add] at stop
      split at ended
      · cases ended
      · cases ended
        exact ⟨query.toList, [], (List.append_nil _).symm, stop, by simp⟩

/-! ## The column -/

/-- The characters that the line shows are those that are no newline. -/
theorem length_eq_shown_add_newlines (s : List Char) :
    s.length = (s.filter (· != '\n')).length + s.count '\n' := by
  rw [List.length_eq_countP_add_countP (· != '\n'), List.countP_eq_length_filter, List.count]
  congr 1
  exact List.countP_congr fun c _ => by simp

theorem column_append {query : String} {bad : Malformed} {before after : List Char}
    (whole : query.toList = before ++ after) (place : bad.position = before.length) :
    bad.column query = (before.filter (· != '\n')).length +
      min (before.count '\n') (after.filter (· != '\n')).length := by
  have counted := length_eq_shown_add_newlines before
  unfold Malformed.column Malformed.shownLine
  rw [whole, List.filter_append, List.length_append, place]
  omega

/-- Of a text that does not start with a blank something is shown. -/
theorem length_shown_eq_zero {s : List Char} (visible : ∀ c ∈ s.head?, isBlank c = false) :
    (s.filter (· != '\n')).length = 0 ↔ s = [] := by
  constructor
  · intro none
    cases s with
    | nil => rfl
    | cons c rest =>
      have other : c ≠ '\n' := by
        rintro rfl
        exact absurd (visible '\n' rfl) (by decide)
      simp [other] at none
  · rintro rfl
    rfl

/-! ## The law -/

/-- The error of a text that is no query is inside the text or at its end. Below the text
without its newlines, the caret stands behind the characters that are shown of what is in
front of the error, and as many more as there are newlines among these, if the line goes on
so far. So it is under the error exactly if no newline is in front of it, or it is at the end. -/
theorem the_caret_is_under_the_error_unless_newlines_precede_it (query : String)
    (bad : Malformed) (h : Expr.parse query = .error bad) :
    bad.position ≤ query.length ∧
    ∃ before after spaces, query.toList = before ++ after ∧ before.length = bad.position ∧
      bad.pointer query = String.ofList (query.toList.filter (· != '\n') ++
        '\n' :: List.replicate spaces ' ' ++ ['^']) ∧
      spaces = (before.filter (· != '\n')).length +
        min (before.count '\n') (after.filter (· != '\n')).length ∧
      (spaces = (before.filter (· != '\n')).length ↔
        '\n' ∉ before ∨ bad.position = query.length) := by
  obtain ⟨before, after, whole, place, visible⟩ := exists_place_of_error h
  have length : query.length = before.length + after.length := by
    rw [← String.length_toList, whole, List.length_append]
  refine ⟨by omega, before, after, bad.column query, whole, place.symm, rfl,
    column_append whole place, ?_⟩
  have newlines : before.count '\n' = 0 ↔ '\n' ∉ before := List.count_eq_zero
  have behind := length_shown_eq_zero visible
  have atEnd : bad.position = query.length ↔ after = [] := by
    rw [place, length, Nat.left_eq_add, List.length_eq_zero_iff]
  rw [column_append whole place, ← newlines, atEnd, ← behind]
  omega

/-- A query on two lines that ends too early: the caret is right behind the line. -/
theorem the_caret_is_under_the_end_of_two_lines :
    ∃ bad, Expr.parse "Commits\n.Take(" = .error bad ∧ bad.position = "Commits\n.Take(".length ∧
      ∃ before after spaces, "Commits\n.Take(".toList = before ++ after ∧
        before.length = bad.position ∧
        bad.pointer "Commits\n.Take(" = String.ofList
          ("Commits\n.Take(".toList.filter (· != '\n') ++ '\n' :: List.replicate spaces ' ' ++
            ['^']) ∧
        spaces = (before.filter (· != '\n')).length := by
  have h : ∃ bad, Expr.parse "Commits\n.Take(" = .error bad ∧
      bad.position = "Commits\n.Take(".length := ⟨_, by cbv, by cbv⟩
  obtain ⟨bad, h, place⟩ := h
  obtain ⟨-, before, after, spaces, whole, length, pointer, -, right⟩ :=
    the_caret_is_under_the_error_unless_newlines_precede_it _ bad h
  exact ⟨bad, h, place, before, after, spaces, whole, length, pointer, right.mpr (.inr place)⟩

/-- A single equals sign in the second line has 25 shown characters in front of it, and the
caret has 26 spaces. -/
theorem the_caret_is_behind_an_error_in_the_second_line :
    ∃ bad, Expr.parse "Commits\n.Where(c => c.Sha = 'a')" = .error bad ∧
      (("Commits\n.Where(c => c.Sha = 'a')".toList.take bad.position).filter
        (· != '\n')).length = 25 ∧
      bad.pointer "Commits\n.Where(c => c.Sha = 'a')" =
        String.ofList ("Commits.Where(c => c.Sha = 'a')".toList ++
          '\n' :: List.replicate 26 ' ' ++ ['^']) ∧
      bad.pointer "Commits\n.Where(c => c.Sha = 'a')" ≠
        String.ofList ("Commits.Where(c => c.Sha = 'a')".toList ++
          '\n' :: List.replicate 25 ' ' ++ ['^']) :=
  ⟨_, by cbv, by cbv, by cbv, by cbv⟩

end CommitQuery.Query
