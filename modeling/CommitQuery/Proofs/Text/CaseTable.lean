-- What the table of lower case keeps. A character of ASCII that is no letter is the lower
-- case of itself only, and a character is cased, or passed over where the form of a sigma is
-- told, just as its lower case is. Each fact is one look through the runs of the table.
import CommitQuery.Proofs.Text.Case

namespace CommitQuery.Text

/-! ## Runs -/

/-- The code points of a run. -/
def CaseRun.members (r : CaseRun) : List Nat :=
  List.range' r.first ((r.last - r.first) / r.step + 1) r.step

/-- The code point that a run takes a code point to. -/
def CaseRun.image (r : CaseRun) (n : Nat) : Nat := (n + r.shift).toNat

theorem CaseRun.image_mono (r : CaseRun) {m n : Nat} (h : m ≤ n) : r.image m ≤ r.image n := by
  unfold image
  omega

theorem CaseRun.bounds {r : CaseRun} (ordered : r.first ≤ r.last) {n : Nat}
    (h : n ∈ r.members) : r.first ≤ n ∧ n ≤ r.last := by
  obtain ⟨i, small, rfl⟩ := List.mem_range'.mp h
  have fits := Nat.mul_le_mul_left r.step (Nat.le_of_lt_succ small)
  have whole := Nat.mul_div_le (r.last - r.first) r.step
  omega

theorem CaseRun.image_bounds {r : CaseRun} (ordered : r.first ≤ r.last) {n : Nat}
    (h : n ∈ r.members) : r.image r.first ≤ r.image n ∧ r.image n ≤ r.image r.last :=
  ⟨r.image_mono (bounds ordered h).1, r.image_mono (bounds ordered h).2⟩

theorem CaseRun.find_eq_some {runs : List CaseRun} {n : Nat} {d : Char}
    (h : CaseRun.find runs n = some d) :
    ∃ r ∈ runs, n ∈ r.members ∧ d = Char.ofNat (r.image n) := by
  obtain ⟨r, found, image⟩ := Option.map_eq_some_iff.mp h
  have holds := List.find?_some found
  simp only [Bool.and_eq_true, decide_eq_true_eq] at holds
  obtain ⟨⟨first, last⟩, step⟩ := holds
  refine ⟨r, List.mem_of_find?_eq_some found, List.mem_range'.mpr ?_, image.symm⟩
  refine ⟨(n - r.first) / r.step, Nat.lt_succ_of_le (Nat.div_le_div_right (by omega)), ?_⟩
  have whole := Nat.div_add_mod (n - r.first) r.step
  omega

/-- The runs hold capital letters of ASCII and characters outside of it, and take them to small
letters or outside of it. -/
theorem ends_of_mem_lowerRuns : ∀ r ∈ lowerRuns, r.first ≤ r.last ∧
    (65 ≤ r.first ∧ r.last ≤ 90 ∨ 128 ≤ r.first) ∧
    (97 ≤ r.image r.first ∧ r.image r.last ≤ 122 ∨ 128 ≤ r.image r.first) ∧
    (r.image r.last < 0xD800 ∨ 0xDFFF < r.image r.first ∧ r.image r.last < 0x110000) := by
  decide +kernel

/-- The lower case of a character: itself, what a run takes it to, or two characters. -/
theorem lowerChar_cases (c : Char) : lowerChar c = [c] ∨ c = 'İ' ∨
    ∃ r ∈ lowerRuns, c.toNat ∈ r.members ∧
      ∃ d, lowerChar c = [d] ∧ d.toNat = r.image c.toNat := by
  by_cases small : c.toNat < 128
  · rw [lowerChar, if_pos small]
    have lower := toNat_asciiLower c
    split at lower
    · rename_i capital
      refine .inr (.inr ⟨⟨65, 90, 1, 32⟩, List.Mem.head _, ?_, _, rfl, lower⟩)
      refine List.mem_range'.mpr ⟨c.toNat - 65, ?_, ?_⟩ <;> dsimp only <;> omega
    · exact .inl (congrArg (fun d => [d]) (Char.toNat_inj.mp lower))
  · rw [lowerChar, if_neg small, mapCase]
    split
    · rename_i n image found
      have own := List.find?_some found
      rw [List.mem_singleton.mp (List.mem_of_find?_eq_some found), beq_iff_eq] at own
      exact .inr (.inl (Char.toNat_inj.mp own.symm))
    · cases image : CaseRun.find lowerRuns c.toNat with
      | none => exact .inl rfl
      | some d =>
        obtain ⟨r, hr, mem, rfl⟩ := CaseRun.find_eq_some image
        refine .inr (.inr ⟨r, hr, mem, _, rfl, ?_⟩)
        obtain ⟨ordered, _, _, valid⟩ := ends_of_mem_lowerRuns r hr
        obtain ⟨first, last⟩ := CaseRun.image_bounds ordered mem
        have char : (r.image c.toNat).isValidChar := by
          rcases valid with low | high
          · exact .inl (by omega)
          · exact .inr (by omega)
        rw [Char.ofNat, dif_pos char]
        rfl

/-- Where the code points of a run lie, and what it takes them to. -/
theorem places_of_mem_members {r : CaseRun} (hr : r ∈ lowerRuns) {n : Nat} (h : n ∈ r.members) :
    (65 ≤ n ∧ n ≤ 90 ∨ 128 ≤ n) ∧ (97 ≤ r.image n ∧ r.image n ≤ 122 ∨ 128 ≤ r.image n) := by
  obtain ⟨ordered, own, images, _⟩ := ends_of_mem_lowerRuns r hr
  obtain ⟨above, below⟩ := CaseRun.bounds ordered h
  obtain ⟨first, last⟩ := CaseRun.image_bounds ordered h
  omega

/-! ## Signs -/

/-- A character of ASCII that is no letter is the lower case of itself only. -/
theorem mem_lowerChar_iff {c d : Char} (small : d.toNat < 128) (sign : isAsciiLetter d = false) :
    d ∈ lowerChar c ↔ d = c := by
  rw [Bool.eq_false_iff, Ne, isAsciiLetter_iff] at sign
  have other : ∀ e : Char, d.toNat ≠ e.toNat → d ≠ e := fun e apart same => apart (by rw [same])
  rcases lowerChar_cases c with own | rfl | ⟨r, hr, mem, e, image, place⟩
  · rw [own, List.mem_singleton]
  · refine iff_of_false (fun mem => ?_) (other _ ?_)
    · rcases List.mem_cons.mp mem with rfl | mem
      · exact sign (by decide)
      · rw [List.mem_singleton.mp mem] at small
        exact absurd small (by decide)
    · exact fun same => absurd (same ▸ small) (by decide)
  · obtain ⟨source, target⟩ := places_of_mem_members hr mem
    rw [image, List.mem_singleton]
    exact iff_of_false (other e (by omega)) (other c (by omega))

/-- Lower case neither takes away nor puts in such a character. -/
theorem mem_lowerList_iff {d : Char} {s : List Char} (small : d.toNat < 128)
    (sign : isAsciiLetter d = false) : d ∈ lowerList s ↔ d ∈ s := by
  suffices ∀ before, d ∈ lowerFrom before s ↔ d ∈ s from this []
  induction s with
  | nil => exact fun _ => Iff.rfl
  | cons c rest ih =>
    intro before
    rw [lowerFrom, List.mem_append, List.mem_cons, ih]
    refine or_congr_left' fun _ => ?_
    split
    · rename_i sigma
      subst sigma
      have other : ∀ e : Char, 128 ≤ e.toNat → d ≠ e := fun e wide same => by
        rw [same] at small
        omega
      refine iff_of_false (fun mem => ?_) (other _ (by decide))
      split at mem
      · exact other _ (by decide) (List.mem_singleton.mp mem)
      · exact other _ (by decide) (List.mem_singleton.mp mem)
    · exact mem_lowerChar_iff small sign

/-! ## Cased letters -/

/-- Whether a range of an ascending list meets the code points from `low` to `high`. What
starts behind them is not looked at. -/
def CodeRanges.meets (low high : Nat) : CodeRanges → Bool
  | [] => false
  | q :: rest => !Nat.blt high q.1 && (!Nat.blt q.2 low || CodeRanges.meets low high rest)

/-- Whether one range of a list holds all code points from `low` to `high`. -/
def CodeRanges.covers (low high : Nat) (ranges : CodeRanges) : Bool :=
  ranges.any fun q => Nat.ble q.1 low && Nat.ble high q.2

theorem CodeRanges.contains_of_covers {ranges : CodeRanges} {low high : Nat}
    (h : ranges.covers low high = true) {c : Char} (hlow : low ≤ c.toNat)
    (hhigh : c.toNat ≤ high) : ranges.contains c = true := by
  obtain ⟨q, hq, inside⟩ := List.any_eq_true.mp h
  simp only [Bool.and_eq_true, Nat.ble_eq] at inside
  refine List.any_eq_true.mpr ⟨q, hq, ?_⟩
  simp only [Bool.and_eq_true, decide_eq_true_eq]
  omega

theorem CodeRanges.contains_of_not_meets {ranges : CodeRanges} {low high : Nat}
    (ascending : (ranges.map (·.1)).Pairwise (· < ·)) (h : ranges.meets low high = false)
    {c : Char} (hlow : low ≤ c.toNat) (hhigh : c.toNat ≤ high) : ranges.contains c = false := by
  induction ranges with
  | nil => rfl
  | cons q rest ih =>
    rw [List.map_cons, List.pairwise_cons] at ascending
    rw [CodeRanges.contains, List.any_cons, Bool.or_eq_false_iff]
    simp only [meets, Bool.and_eq_false_iff, Bool.or_eq_false_iff, Bool.not_eq_false',
      Nat.blt_eq] at h
    rcases h with behind | ⟨before, h⟩
    · refine ⟨by simp only [Bool.and_eq_false_iff, decide_eq_false_iff_not]; omega, ?_⟩
      refine List.any_eq_false.mpr fun q' hq' => ?_
      have later := ascending.1 q'.1 (List.mem_map_of_mem hq')
      simp only [Bool.and_eq_true, decide_eq_true_eq]
      omega
    · refine ⟨by simp only [Bool.and_eq_false_iff, decide_eq_false_iff_not]; omega, ?_⟩
      exact ih ascending.2 h

/-- The runs of lower case take cased letters to cased letters. -/
theorem covers_of_mem_lowerRuns : ∀ r ∈ lowerRuns,
    (casedRanges.covers r.first r.last ||
      r.members.all fun n => casedRanges.covers n n) = true ∧
    casedRanges.covers (r.image r.first) (r.image r.last) = true := by
  decide +kernel

/-- The rule of the final sigma passes over none of these letters. -/
theorem meets_of_mem_lowerRuns : ∀ r ∈ lowerRuns,
    caseIgnorableRanges.meets r.first r.last = false ∧
      caseIgnorableRanges.meets (r.image r.first) (r.image r.last) = false := by
  decide +kernel

theorem ascending_caseIgnorableRanges : (caseIgnorableRanges.map (·.1)).Pairwise (· < ·) :=
  List.isChain_iff_pairwise.mp (by decide +kernel)

/-- A character that a run takes to another is cased and not passed over. -/
theorem cased_of_mem_members {r : CaseRun} (hr : r ∈ lowerRuns) {c : Char}
    (mem : c.toNat ∈ r.members) : isCased c = true ∧ isCaseIgnorable c = false := by
  obtain ⟨first, last⟩ := CaseRun.bounds (ends_of_mem_lowerRuns r hr).1 mem
  obtain ⟨meets, -⟩ := meets_of_mem_lowerRuns r hr
  refine ⟨?_, CodeRanges.contains_of_not_meets ascending_caseIgnorableRanges meets first last⟩
  unfold isCased
  split
  · have place := (places_of_mem_members hr mem).1
    exact isAsciiLetter_iff.mpr (by omega)
  · rcases Bool.or_eq_true_iff.mp (covers_of_mem_lowerRuns r hr).1 with whole | each
    · exact CodeRanges.contains_of_covers whole first last
    · exact CodeRanges.contains_of_covers (List.all_eq_true.mp each _ mem)
        (Nat.le_refl _) (Nat.le_refl _)

/-- So is what the run takes it to. -/
theorem cased_of_image {r : CaseRun} (hr : r ∈ lowerRuns) {n : Nat} (mem : n ∈ r.members)
    {d : Char} (place : d.toNat = r.image n) : isCased d = true ∧ isCaseIgnorable d = false := by
  obtain ⟨first, last⟩ := CaseRun.image_bounds (ends_of_mem_lowerRuns r hr).1 mem
  have target := (places_of_mem_members hr mem).2
  rw [← place] at first last target
  obtain ⟨-, meets⟩ := meets_of_mem_lowerRuns r hr
  refine ⟨?_, CodeRanges.contains_of_not_meets ascending_caseIgnorableRanges meets first last⟩
  unfold isCased
  split
  · exact isAsciiLetter_iff.mpr (by omega)
  · exact CodeRanges.contains_of_covers (covers_of_mem_lowerRuns r hr).2 first last

/-- The lower case of a character is cased, and passed over, just as the character is. -/
theorem lowerChar_class (c : Char) : c = 'İ' ∨ ∃ d, lowerChar c = [d] ∧
    isCased d = isCased c ∧ isCaseIgnorable d = isCaseIgnorable c := by
  rcases lowerChar_cases c with own | dotted | ⟨r, hr, mem, d, image, place⟩
  · exact .inr ⟨c, own, rfl, rfl⟩
  · exact .inl dotted
  · obtain ⟨capital, seen⟩ := cased_of_mem_members hr mem
    obtain ⟨small, seen'⟩ := cased_of_image hr mem place
    exact .inr ⟨d, image, small.trans capital.symm, seen'.trans seen.symm⟩

theorem cased?_cons (c : Char) (s : List Char) :
    cased? (c :: s) = if isCaseIgnorable c then cased? s else isCased c := by
  rw [cased?, List.dropWhile_cons]
  split
  · rfl
  · rfl

/-- A letter is looked for in a part only if none comes before it. -/
theorem cased?_append_congr (front : List Char) {s t : List Char} (h : cased? s = cased? t) :
    cased? (front ++ s) = cased? (front ++ t) := by
  induction front with
  | nil => exact h
  | cons c rest ih => rw [List.cons_append, List.cons_append, cased?_cons, cased?_cons, ih]

/-- What the rule of the final sigma sees of a character is what it sees of its lower case. -/
theorem cased?_lowerChar (c : Char) {s t : List Char} (h : cased? s = cased? t) :
    cased? ((lowerChar c).reverse ++ s) = cased? (c :: t) := by
  rcases lowerChar_class c with rfl | ⟨d, lower, cased, ignorable⟩
  · have lower : lowerChar 'İ' = ['i', '\u0307'] := by decide +kernel
    have passed : isCaseIgnorable '\u0307' = true := by decide +kernel
    have seen : isCaseIgnorable 'i' = false ∧ isCaseIgnorable 'İ' = false := by decide +kernel
    rw [lower, List.reverse_cons, List.reverse_singleton, List.append_assoc,
      List.singleton_append, List.singleton_append, cased?_cons, if_pos passed, cased?_cons,
      cased?_cons, seen.1, seen.2]
    exact show isCased 'i' = isCased 'İ' by decide +kernel
  · rw [lower, List.reverse_singleton, List.singleton_append, cased?_cons, cased?_cons, cased,
      ignorable, h]

/-- The letters before a place are cased just as those of the lower case are. -/
theorem cased?_lowerBetween (before part after : List Char) :
    cased? (lowerBetween before part after).reverse = cased? part.reverse := by
  suffices ∀ s t : List Char, cased? s = cased? t →
      cased? ((lowerBetween before part after).reverse ++ s) = cased? (part.reverse ++ t) by
    simpa using this [] [] rfl
  induction part generalizing before with
  | nil => exact fun s t h => h
  | cons c rest ih =>
    intro s t h
    rw [lowerBetween, List.reverse_append, List.append_assoc, List.reverse_cons,
      List.append_assoc]
    refine ih (c :: before) _ _ ?_
    rw [List.singleton_append]
    split
    · rename_i sigma
      subst sigma
      have capital : isCaseIgnorable 'Σ' = false ∧ isCased 'Σ' = true := by decide +kernel
      have small : ∀ final : Bool, isCaseIgnorable (if final then 'ς' else 'σ') = false ∧
          isCased (if final then 'ς' else 'σ') = true := by decide +kernel
      rw [List.reverse_singleton, List.singleton_append, cased?_cons, cased?_cons, (small _).1,
        (small _).2, capital.1, capital.2]
      rfl
    · exact cased?_lowerChar c h

/-! ## Other beginnings -/

/-- An opening parenthesis at the end leaves every sigma as it is. -/
theorem lowerList_concat_paren (s : List Char) : lowerList (s ++ ['(']) = lowerList s ++ ['('] := by
  have keeps : KeepsSigmas [] s ['('] := by
    intro front back _
    have same := cased?_append_congr back (show cased? ['('] = cased? [] by decide +kernel)
    rw [List.append_nil] at same
    rw [List.nil_append, endsWord, endsWord, same]
  have own : lowerBetween [] s ['('] = lowerList s := lowerBetween_eq_lowerList_iff.mpr keeps
  rw [lowerList, lowerFrom_append, own]
  rfl

/-- A text that goes on with the rest of another has the lower case of the other, if it starts
it in lower case, just if it has as many bytes in lower case as what it stands for and its
sigmas keep their form in front of the rest. -/
theorem lowerList_append_eq_iff {start taken rest : List Char}
    (starts : lowerList start <+: lowerList (taken ++ rest)) :
    lowerList (start ++ rest) = lowerList (taken ++ rest) ↔
      utf8Length (lowerList taken) = utf8Length (lowerList start) ∧ KeepsSigmas [] start rest := by
  have split : ∀ s, lowerList (s ++ rest) = lowerBetween [] s rest ++ lowerFrom s.reverse rest := by
    intro s
    rw [lowerList, lowerFrom_append, List.append_nil]
  have own : lowerBetween [] start rest = lowerList start ↔ KeepsSigmas [] start rest :=
    @lowerBetween_eq_lowerList_iff [] start rest
  -- Bytes that start the same text are the same bytes as soon as they are as many.
  have begins : utf8Length (lowerList taken) = utf8Length (lowerList start) →
      lowerList start = lowerBetween [] taken rest := by
    intro bytes
    obtain ⟨more, whole⟩ := starts
    rw [split] at whole
    refine (append_inj_of_utf8Length whole ?_).1
    rw [utf8Length_lowerBetween_eq, bytes]
  rw [split, split]
  constructor
  · intro same
    have ends : utf8Length (lowerFrom start.reverse rest) =
        utf8Length (lowerFrom taken.reverse rest) := by
      rw [lowerFrom_eq_lowerBetween, lowerFrom_eq_lowerBetween, utf8Length_lowerBetween_eq,
        utf8Length_lowerBetween_eq]
    have bytes : utf8Length (lowerBetween [] start rest) =
        utf8Length (lowerBetween [] taken rest) := by
      have all := congrArg utf8Length same
      rw [utf8Length_append, utf8Length_append, ends] at all
      exact Nat.add_right_cancel all
    have parts := (append_inj_of_utf8Length same bytes).1
    rw [utf8Length_lowerBetween_eq, utf8Length_lowerBetween_eq] at bytes
    exact ⟨bytes.symm, own.mp (parts.trans (begins bytes.symm).symm)⟩
  · rintro ⟨bytes, keeps⟩
    have front : lowerBetween [] start rest = lowerBetween [] taken rest :=
      (own.mpr keeps).trans (begins bytes)
    have cased : cased? start.reverse = cased? taken.reverse := by
      rw [← cased?_lowerBetween [] start rest, front, cased?_lowerBetween]
    have back : lowerFrom start.reverse rest = lowerFrom taken.reverse rest := by
      rw [lowerFrom_eq_lowerBetween, lowerFrom_eq_lowerBetween]
      refine lowerBetween_eq_iff.mpr fun front back _ => ?_
      rw [endsWord, endsWord, cased?_append_congr _ cased]
    rw [front, back]

end CommitQuery.Text
