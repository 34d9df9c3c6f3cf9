-- A timestamp in the strict form stands in its text from the first character to the last,
-- so that trimming its text changes nothing.
import CommitQuery.Time.Reader
import CommitQuery.Proofs.Plan.Walk
import CommitQuery.Proofs.Text.Class
import CommitQuery.Proofs.Text.Pieces

namespace CommitQuery.Timestamp

open CommitQuery.Text

/-! ## What a step takes -/

theorem twoDigits_eq_ok {s after : List Char} {n : Nat} (h : twoDigits s = .ok (n, after)) :
    ∃ a b, s = a :: b :: after ∧ isAsciiDigit a = true ∧ isAsciiDigit b = true := by
  unfold twoDigits at h
  split at h
  · split at h
    · rename_i digits
      rw [Bool.and_eq_true] at digits
      cases h
      exact ⟨_, _, rfl, digits.1, digits.2⟩
    · cases h
  · split at h <;> cases h
  · cases h

theorem expect_eq_ok {c : Char} {s after : List Char} {u : Unit}
    (h : expect c s = .ok (u, after)) : s = c :: after := by
  unfold expect at h
  split at h
  · split at h
    · rename_i same
      cases h
      rw [same]
    · cases h
  · cases h

theorem dateEnd_suffix {s after : List Char} {u : Unit} (h : dateEnd s = .ok (u, after)) :
    after <:+ s := by
  unfold dateEnd at h
  split at h
  · split at h
    · cases h
      exact List.suffix_cons _ _
    · cases h
  · cases h

theorem twoDigits_suffix {s after : List Char} {n : Nat} (h : twoDigits s = .ok (n, after)) :
    after <:+ s := by
  obtain ⟨a, b, rfl, -⟩ := twoDigits_eq_ok h
  exact ⟨[a, b], rfl⟩

theorem expect_suffix {c : Char} {s after : List Char} {u : Unit}
    (h : expect c s = .ok (u, after)) : after <:+ s := by
  rw [expect_eq_ok h]
  exact List.suffix_cons _ _

theorem optionalFraction_suffix {s after : List Char} {n : Nat}
    (h : optionalFraction s = .ok (n, after)) : after <:+ s := by
  unfold optionalFraction at h
  split at h
  · unfold fraction at h
    split at h
    · cases h
    · split at h
      · cases h
        exact (List.dropWhile_suffix _).trans ⟨['.', _], rfl⟩
      · cases h
  · cases h
    exact List.suffix_refl s

theorem offsetMinutes_eq_ok {s after : List Char} {n : Nat}
    (h : offsetMinutes s = .ok (n, after)) :
    ∃ a b, s = a :: b :: after ∧ isAsciiDigit b = true := by
  unfold offsetMinutes at h
  split at h
  · split at h
    · rename_i digits
      rw [Bool.and_eq_true] at digits
      split at h
      · cases h
        exact ⟨_, _, rfl, digits.2⟩
      · cases h
    · cases h
  · split at h <;> cases h
  · cases h

/-- The date starts with a digit. -/
theorem strictDate_eq_ok {s after : List Char} {d : Date} (h : strictDate s = .ok (d, after)) :
    after <:+ s ∧ ∃ c rest, s = c :: rest ∧ isAsciiDigit c = true := by
  unfold strictDate at h
  obtain ⟨⟨century, s1⟩, h1, h⟩ := bind_eq_ok.mp h
  obtain ⟨⟨year, s2⟩, h2, h⟩ := bind_eq_ok.mp h
  obtain ⟨⟨_, s3⟩, h3, h⟩ := bind_eq_ok.mp h
  obtain ⟨⟨month, s4⟩, h4, h⟩ := bind_eq_ok.mp h
  obtain ⟨⟨_, s5⟩, h5, h⟩ := bind_eq_ok.mp h
  obtain ⟨⟨day, s6⟩, h6, h⟩ := bind_eq_ok.mp h
  dsimp only at h
  split at h
  · cases h
    refine ⟨?_, ?_⟩
    · exact (twoDigits_suffix h6).trans <| (expect_suffix h5).trans <|
        (twoDigits_suffix h4).trans <| (expect_suffix h3).trans <|
          (twoDigits_suffix h2).trans (twoDigits_suffix h1)
    · obtain ⟨a, b, rfl, ha, -⟩ := twoDigits_eq_ok h1
      exact ⟨a, _, rfl, ha⟩
  · cases h

/-- An offset that takes the rest of a text ends in a letter or a digit. -/
theorem last_offset {s : List Char} {n : Int} (h : offsetWith (expect ':') s = .ok (n, [])) :
    ∃ before c, s = before ++ [c] ∧ isBlank c = false := by
  unfold offsetWith at h
  split at h
  · cases h
  · rename_i c rest
    split at h
    · rename_i letter
      cases h
      refine ⟨[], c, rfl, ?_⟩
      simp only [Bool.or_eq_true, decide_eq_true_eq] at letter
      rcases letter with rfl | rfl
      · decide
      · decide
    · split at h
      · obtain ⟨⟨hours, s1⟩, h1, h⟩ := bind_eq_ok.mp h
        obtain ⟨⟨_, s2⟩, h2, h⟩ := bind_eq_ok.mp h
        obtain ⟨⟨minutes, s3⟩, h3, h⟩ := bind_eq_ok.mp h
        cases h
        obtain ⟨a, b, rfl, -⟩ := twoDigits_eq_ok h1
        obtain ⟨d, e, rfl, he⟩ := offsetMinutes_eq_ok h3
        rw [expect_eq_ok h2]
        exact ⟨[c, a, b, ':', d], e, rfl, isBlank_of_isAsciiDigit he⟩
      · cases h

/-- A timestamp takes its whole text: there is no blank at either end. -/
theorem blank_ends_of_read {text : String} {t : Timestamp} (h : read text = .ok t) :
    (∀ c ∈ text.toList.head?, isBlank c = false) ∧
      ∀ c ∈ text.toList.getLast?, isBlank c = false := by
  unfold read at h
  split at h
  · cases h
  · obtain ⟨⟨date, s1⟩, h1, h⟩ := bind_eq_ok.mp h
    obtain ⟨⟨_, s2⟩, h2, h⟩ := bind_eq_ok.mp h
    obtain ⟨⟨hour, s3⟩, h3, h⟩ := bind_eq_ok.mp h
    obtain ⟨⟨_, s4⟩, h4, h⟩ := bind_eq_ok.mp h
    obtain ⟨⟨minute, s5⟩, h5, h⟩ := bind_eq_ok.mp h
    obtain ⟨⟨_, s6⟩, h6, h⟩ := bind_eq_ok.mp h
    obtain ⟨⟨second, s7⟩, h7, h⟩ := bind_eq_ok.mp h
    dsimp only at h
    obtain ⟨⟨nanos, s8⟩, h8, h⟩ := bind_eq_ok.mp h
    dsimp only at h
    split at h
    · cases h
    · obtain ⟨⟨offset, s9⟩, h9, h⟩ := bind_eq_ok.mp h
      dsimp only at h
      split at h
      · cases h
      · rename_i whole
        have none : s9 = [] := by simpa using whole
        rw [none] at h9
        obtain ⟨suffix, c, rest, start, digit⟩ := strictDate_eq_ok h1
        obtain ⟨before, d, stop, last⟩ := last_offset h9
        have tail : s8 <:+ text.toList :=
          (optionalFraction_suffix h8).trans <| (twoDigits_suffix h7).trans <|
            (expect_suffix h6).trans <| (twoDigits_suffix h5).trans <| (expect_suffix h4).trans <|
              (twoDigits_suffix h3).trans <| (dateEnd_suffix h2).trans suffix
        obtain ⟨front, text_eq⟩ := tail
        refine ⟨?_, ?_⟩
        · rw [start]
          intro e he
          cases he
          exact isBlank_of_isAsciiDigit digit
        · rw [← text_eq, stop, ← List.append_assoc, List.getLast?_concat]
          intro e he
          cases he
          exact last

end CommitQuery.Timestamp
