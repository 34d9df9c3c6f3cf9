-- A time of UTC that was written is read back from its text. The digits that a number is
-- filled up to are those that its place in the text takes, so no part runs into the next.
import Mathlib.Tactic.SplitIfs
import CommitQuery.Time.Reader
import CommitQuery.Proofs.Plan.Walk
import CommitQuery.Proofs.Text.Class
import CommitQuery.Proofs.Text.Pieces

namespace CommitQuery.Timestamp

open CommitQuery.Text

/-- A time that the calendar has and that the clock of UTC shows, leap seconds among them. -/
structure IsUtc (t : Timestamp) : Prop where
  offset : t.offset = 0
  valid : t.date.isValid = true
  known : isKnownYear t.date.year = true
  time : isTimeOfDay t.hour t.minute t.second t.nanos = true
  leap : t.nanos < 2000000000

/-! ## Digits -/

theorem padded_eq (width n : Nat) : padded width n =
    List.replicate (width - (Nat.toDigits 10 n).length) '0' ++ Nat.toDigits 10 n := by
  simp [padded]

theorem forall_mem_padded (width n : Nat) : ∀ c ∈ padded width n, isAsciiDigit c = true := by
  intro c hc
  rw [padded_eq, List.mem_append] at hc
  rcases hc with hc | hc
  · rw [(List.mem_replicate.mp hc).2]
    decide
  · exact isAsciiDigit_of_mem_toDigits hc

theorem digitsValue_padded (width n : Nat) : digitsValue (padded width n) = n := by
  have zeros : ∀ count,
      (List.replicate count '0').foldl (fun n d => 10 * n + digitValue d) 0 = 0 := by
    intro count
    induction count with
    | zero => rfl
    | succ count ih => exact ih
  rw [padded_eq, digitsValue, List.foldl_append, zeros]
  exact digitsValue_toDigits n

theorem length_padded {width n : Nat} (positive : 0 < width) (h : n < Nat.pow 10 width) :
    (padded width n).length = width := by
  have short := (Nat.length_toDigits_le_iff (by decide) positive).mpr h
  rw [padded_eq, List.length_append, List.length_replicate]
  omega

theorem padded_eq_cons (width n : Nat) :
    ∃ c rest, padded width n = c :: rest ∧ isAsciiDigit c = true := by
  cases h : padded width n with
  | nil =>
    rw [padded_eq, List.append_eq_nil_iff] at h
    exact absurd h.2 Nat.toDigits_ne_nil
  | cons c rest =>
    refine ⟨c, rest, rfl, ?_⟩
    apply forall_mem_padded width n
    simp [h]

/-- No blank is skipped in front of a number. -/
theorem trimStart_padded (width n : Nat) (s : List Char) :
    trimStart (padded width n ++ s) = padded width n ++ s := by
  obtain ⟨c, rest, start, digit⟩ := padded_eq_cons width n
  apply trimStart_eq_self
  rw [start]
  intro d hd
  cases hd
  exact isBlank_of_isAsciiDigit digit

/-- A number that fills its place is read, whatever follows it. -/
theorem looseNumber_padded {width n : Nat} (positive : 0 < width) (h : n < Nat.pow 10 width)
    (s : List Char) : looseNumber width (padded width n ++ s) = .ok (n, s) := by
  have length := length_padded positive h
  have front : (padded width n ++ s).take width = padded width n := List.take_left' length
  have digits : (padded width n).takeWhile isAsciiDigit = padded width n :=
    List.takeWhile_eq_self_iff.mpr (forall_mem_padded width n)
  have some_digit : (padded width n).isEmpty = false := by
    rw [List.isEmpty_eq_false_iff, ← List.length_pos_iff, length]
    exact positive
  simp [looseNumber, trimStart_padded, front, digits, some_digit, digitsValue_padded]

/-! ## Parts of a text -/

theorem expect_cons {c : Char} (h : isBlank c = false) (s : List Char) :
    expect c (trimStart (c :: s)) = .ok ((), s) := by
  simp [trimStart, expect, h]

/-- What a run of digits is cut off as, in front of a minus. -/
theorem takeWhile_padded (width n : Nat) (s : List Char) :
    (padded width n ++ '-' :: s).takeWhile isAsciiDigit = padded width n := by
  refine (span_append (forall_mem_padded width n) ?_).1
  intro c hc
  cases hc
  decide

theorem isEmpty_padded (width n : Nat) : (padded width n).isEmpty = false := by
  obtain ⟨c, rest, start, -⟩ := padded_eq_cons width n
  rw [start]
  rfl

theorem looseYear_signed (year : Int) (s : List Char) :
    looseYear ((if year < 0 then '-' else '+') :: (padded 4 year.natAbs ++ '-' :: s)) =
      .ok (year, '-' :: s) := by
  have unskipped {c : Char} (h : isBlank c = false) (s : List Char) :
      trimStart (c :: s) = c :: s := by
    simp [trimStart, h]
  unfold looseYear
  split_ifs with negative
  · have value : -(year.natAbs : Int) = year := by omega
    rw [unskipped (by decide)]
    generalize year.natAbs = n at value
    simp [takeWhile_padded, isEmpty_padded, digitsValue_padded, value]
  · have value : (year.natAbs : Int) = year := by omega
    rw [unskipped (by decide)]
    generalize year.natAbs = n at value
    simp [takeWhile_padded, isEmpty_padded, digitsValue_padded, value]

/-- A year without a sign has four digits. -/
theorem looseYear_padded {n : Nat} (h : n < 10000) (s : List Char) :
    looseYear (padded 4 n ++ s) = .ok ((n : Int), s) := by
  have read : looseNumber 4 (padded 4 n ++ s) = .ok (n, s) := looseNumber_padded (by decide) h s
  obtain ⟨c, rest, start, digit⟩ := padded_eq_cons 4 n
  unfold looseYear
  rw [trimStart_padded]
  split
  case h_3 =>
    rw [read]
    rfl
  -- a sign is no digit
  all_goals
    rename_i same
    rw [start] at same
    cases same
    cases digit

theorem looseYear_yearText (year : Int) (s : List Char) :
    looseYear (yearText year ++ '-' :: s) = .ok (year, '-' :: s) := by
  unfold yearText
  split
  · rename_i four
    have value : (year.toNat : Int) = year := Int.toNat_of_nonneg four.1
    rw [looseYear_padded (by omega), value]
  · exact looseYear_signed year s

theorem fraction_padded {width n : Nat} (positive : 0 < width) (small : width ≤ 9)
    (h : n < Nat.pow 10 width) :
    fraction (padded width n ++ ['Z']) = .ok (n * Nat.pow 10 (9 - width), ['Z']) := by
  have length := length_padded positive h
  have whole : (padded width n).take 9 = padded width n := List.take_of_length_le (by omega)
  have value := digitsValue_padded width n
  obtain ⟨c, rest, start, digit⟩ := padded_eq_cons width n
  have digits := forall_mem_padded width n
  rw [start] at length whole value digits ⊢
  have stop : ∀ c ∈ ['Z'].head?, isAsciiDigit c = false := by
    intro c hc
    cases hc
    decide
  obtain ⟨taken, left⟩ := span_append (List.forall_mem_cons.mp digits).2 stop
  rw [List.cons_append, fraction]
  simp [digit, taken, left, whole, value, length]

theorem optionalFraction_fractionText {nanos : Nat} (h : nanos < 1000000000) :
    optionalFraction (fractionText nanos ++ ['Z']) = .ok (nanos, ['Z']) := by
  unfold fractionText
  split_ifs with none milli micro
  · rw [none]
    rfl
  · have value : nanos / 1000000 * Nat.pow 10 (9 - 3) = nanos := by
      simp
      omega
    rw [List.cons_append, optionalFraction,
      fraction_padded (by decide) (by decide) (by simp; omega), value]
  · have value : nanos / 1000 * Nat.pow 10 (9 - 6) = nanos := by
      simp
      omega
    rw [List.cons_append, optionalFraction,
      fraction_padded (by decide) (by decide) (by simp; omega), value]
  · have value : nanos * Nat.pow 10 (9 - 9) = nanos := by simp
    rw [List.cons_append, optionalFraction,
      fraction_padded (by decide) (by decide) (by simpa using h), value]

/-- A leap second is written as second 60. -/
theorem leapSecond_written {t : Timestamp} (h : IsUtc t) :
    ∃ leap, leapSecond (t.second + t.nanos / 1000000000) = (t.second, leap) ∧
      leap + t.nanos % 1000000000 = t.nanos := by
  have clock := h.time
  have leap := h.leap
  simp only [isTimeOfDay, Bool.and_eq_true, Bool.or_eq_true, decide_eq_true_eq] at clock
  by_cases plain : t.nanos < 1000000000
  · refine ⟨0, ?_, by omega⟩
    rw [Nat.div_eq_of_lt plain, leapSecond, if_neg (by omega)]
    rfl
  · have last : t.second = 59 := by omega
    have one : t.nanos / 1000000000 = 1 := by omega
    refine ⟨1000000000, ?_, by omega⟩
    rw [last, one]
    rfl

theorem daysInMonth_lt (year : Int) (month : Nat) : Date.daysInMonth year month < 100 := by
  unfold Date.daysInMonth
  split_ifs
  all_goals decide

/-! ## The law -/

theorem IsUtc.readLoose_toUtcText {t : Timestamp} (h : IsUtc t) :
    readLoose t.toUtcText = .ok t := by
  obtain ⟨leap, second, nanos⟩ := leapSecond_written h
  have valid := h.valid
  have clock := h.time
  have small := h.leap
  have days := daysInMonth_lt t.date.year t.date.month
  simp only [Date.isValid, isTimeOfDay, Bool.and_eq_true, Bool.or_eq_true,
    decide_eq_true_eq] at valid clock
  have text : t.toUtcText.toList = yearText t.date.year ++ '-' :: (padded 2 t.date.month ++
      '-' :: (padded 2 t.date.day ++ 'T' :: (padded 2 t.hour ++ ':' :: (padded 2 t.minute ++
        ':' :: (padded 2 (t.second + t.nanos / 1000000000) ++
          (fractionText (t.nanos % 1000000000) ++ ['Z'])))))) := by
    simp [toUtcText, dateText, timeText]
  have two {n : Nat} (small : n < 100) (s : List Char) :
      looseNumber 2 (padded 2 n ++ s) = .ok (n, s) := looseNumber_padded (by decide) small s
  unfold readLoose
  rw [text]
  refine bind_eq_ok.mpr ⟨_, looseYear_yearText _ _, ?_⟩
  refine bind_eq_ok.mpr ⟨_, expect_cons (by decide) _, ?_⟩
  refine bind_eq_ok.mpr ⟨_, two (by omega) _, ?_⟩
  refine bind_eq_ok.mpr ⟨_, expect_cons (by decide) _, ?_⟩
  refine bind_eq_ok.mpr ⟨_, two (by omega) _, ?_⟩
  refine bind_eq_ok.mpr ⟨_, rfl, ?_⟩
  refine bind_eq_ok.mpr ⟨_, two (by omega) _, ?_⟩
  refine bind_eq_ok.mpr ⟨_, expect_cons (by decide) _, ?_⟩
  refine bind_eq_ok.mpr ⟨_, two (by omega) _, ?_⟩
  refine bind_eq_ok.mpr ⟨_, expect_cons (by decide) _, ?_⟩
  refine bind_eq_ok.mpr ⟨_, two (by omega) _, ?_⟩
  dsimp only
  rw [second]
  refine bind_eq_ok.mpr ⟨_, optionalFraction_fractionText (Nat.mod_lt _ (by decide)), ?_⟩
  refine bind_eq_ok.mpr ⟨(0, []), rfl, ?_⟩
  dsimp only
  have same : (⟨⟨t.date.year, t.date.month, t.date.day⟩, t.hour, t.minute, t.second, t.nanos, 0⟩ :
      Timestamp) = t := by
    rw [← h.offset]
  have utc : t.atOffset 0 = t := if_pos h.offset
  rw [nanos, same, utc]
  simp [trimStart, h.valid, h.known, h.time]

/-- A time of UTC is read from the text that it was written as. -/
theorem IsUtc.readUtc?_toUtcText {t : Timestamp} (h : IsUtc t) :
    readUtc? t.toUtcText = some t := by
  unfold readUtc?
  rw [h.readLoose_toUtcText]
  exact congrArg some (if_pos h.offset)

end CommitQuery.Timestamp
