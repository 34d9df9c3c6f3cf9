-- The classes of characters as ranges of code points, and which of them lie apart.
import CommitQuery.Text.Class
import CommitQuery.Text.Digits

namespace CommitQuery.Text

theorem isAsciiDigit_iff {c : Char} : isAsciiDigit c = true ↔ 48 ≤ c.toNat ∧ c.toNat ≤ 57 := by
  simp only [isAsciiDigit, Bool.and_eq_true, decide_eq_true_eq, Char.le_def,
    UInt32.le_iff_toNat_le]
  rfl

theorem isAsciiDigit_of_mem_toDigits {n : Nat} {c : Char} (h : c ∈ Nat.toDigits 10 n) :
    isAsciiDigit c = true := by
  have digit := Nat.isDigit_of_mem_toDigits (by decide) (by decide) h
  simpa [isAsciiDigit, Char.isDigit, Char.le_def] using digit

/-- Digits that a number was written in have its value. -/
theorem digitsValue_toDigits (n : Nat) : digitsValue (Nat.toDigits 10 n) = n :=
  Nat.ofDigitChars_ten_toDigits

theorem isAsciiLetter_iff {c : Char} : isAsciiLetter c = true ↔
    97 ≤ c.toNat ∧ c.toNat ≤ 122 ∨ 65 ≤ c.toNat ∧ c.toNat ≤ 90 := by
  simp only [isAsciiLetter, Bool.or_eq_true, Bool.and_eq_true, decide_eq_true_eq, Char.le_def,
    UInt32.le_iff_toNat_le]
  rfl

/-- A character of one table is in no other one that lies apart from it. -/
theorem contains_of_apart (ranges : CodeRanges) {others : CodeRanges} {c : Char}
    (apart : ∀ r ∈ ranges, ∀ q ∈ others, r.2 < q.1 ∨ q.2 < r.1)
    (h : ranges.contains c = true) : others.contains c = false := by
  obtain ⟨r, hr, hc⟩ := List.any_eq_true.mp h
  simp only [Bool.and_eq_true, decide_eq_true_eq] at hc
  refine List.any_eq_false.mpr fun q hq => ?_
  simp only [Bool.and_eq_true, decide_eq_true_eq]
  have := apart r hr q hq
  omega

theorem isBlank_of_isAsciiDigit {c : Char} (h : isAsciiDigit c = true) : isBlank c = false := by
  refine contains_of_apart [(48, 57)] (by decide) ?_
  simpa [CodeRanges.contains, isAsciiDigit_iff] using h

theorem isBlank_of_isAsciiLetter {c : Char} (h : isAsciiLetter c = true) : isBlank c = false := by
  refine contains_of_apart [(97, 122), (65, 90)] (by decide) ?_
  simpa [CodeRanges.contains, isAsciiLetter_iff] using h

theorem isBlank_of_isLetterOrNumeral {c : Char} (h : isLetterOrNumeral c = true) :
    isBlank c = false := by
  unfold isLetterOrNumeral at h
  split at h
  · rcases Bool.or_eq_true_iff.mp h with letter | digit
    · exact isBlank_of_isAsciiLetter letter
    · exact isBlank_of_isAsciiDigit digit
  · rcases Bool.or_eq_true_iff.mp h with letter | numeral
    · exact contains_of_apart alphabeticRanges (by decide +kernel) letter
    · exact contains_of_apart numericRanges (by decide +kernel) numeral

/-! ## ASCII case -/

theorem toNat_asciiLower (c : Char) : (asciiLower c).toNat =
    if 65 ≤ c.toNat ∧ c.toNat ≤ 90 then c.toNat + 32 else c.toNat := by
  have capital : ('A' ≤ c && c ≤ 'Z') = decide (65 ≤ c.toNat ∧ c.toNat ≤ 90) := by
    simp only [Char.le_def, UInt32.le_iff_toNat_le, Bool.decide_and]
    rfl
  rw [asciiLower, capital]
  by_cases h : 65 ≤ c.toNat ∧ c.toNat ≤ 90
  · have valid : (c.toNat + 32).isValidChar := .inl (by omega)
    rw [if_pos (decide_eq_true h), if_pos h, Char.ofNat, dif_pos valid]
    rfl
  · simp [h]

theorem asciiLower_asciiLower (c : Char) : asciiLower (asciiLower c) = asciiLower c := by
  apply Char.toNat_inj.mp
  have := toNat_asciiLower c
  rw [toNat_asciiLower (asciiLower c), if_neg]
  split at this <;> omega

/-- Small letters are those of the standard library. -/
theorem asciiLower_eq_toLower (c : Char) : asciiLower c = c.toLower := by
  apply Char.toNat_inj.mp
  have capital : c.val ≥ 'A'.val ∧ c.val ≤ 'Z'.val ↔ 65 ≤ c.toNat ∧ c.toNat ≤ 90 := by
    simp only [ge_iff_le, UInt32.le_iff_toNat_le]
    rfl
  rw [toNat_asciiLower]
  by_cases h : 65 ≤ c.toNat ∧ c.toNat ≤ 90
  · rw [if_pos h, show c.toLower = _ from dif_pos (capital.mpr h)]
    show c.val.toNat + 32 = (c.val.toNat + 32) % 2 ^ 32
    have : c.val.toNat ≤ 90 := h.2
    omega
  · rw [if_neg h, show c.toLower = c from dif_neg fun letter => h (capital.mp letter)]

theorem map_asciiLower (s : List Char) : (s.map asciiLower).map asciiLower = s.map asciiLower := by
  rw [List.map_map]
  exact List.map_congr_left fun c _ => asciiLower_asciiLower c

theorem asciiLowercase_asciiLowercase (s : String) :
    asciiLowercase (asciiLowercase s) = asciiLowercase s := by
  rw [asciiLowercase, asciiLowercase, String.toList_ofList, map_asciiLower]

theorem equalsIgnoringAsciiCase_asciiLowercase (s t : String) :
    equalsIgnoringAsciiCase s (asciiLowercase t) = equalsIgnoringAsciiCase s t := by
  rw [equalsIgnoringAsciiCase, asciiLowercase, String.toList_ofList, map_asciiLower,
    equalsIgnoringAsciiCase]

/-- Two texts are equal up to the case of ASCII letters if they are the same in small letters. -/
theorem equalsIgnoringAsciiCase_iff {s t : String} :
    equalsIgnoringAsciiCase s t = true ↔ s.toLower = t.toLower := by
  have small : ∀ s : String, s.toList.map asciiLower = s.toLower.toList := by
    intro s
    rw [show s.toLower = s.map Char.toLower from rfl, String.toList_map,
      funext asciiLower_eq_toLower]
  rw [equalsIgnoringAsciiCase, beq_iff_eq, small, small, String.toList_inj]

end CommitQuery.Text
