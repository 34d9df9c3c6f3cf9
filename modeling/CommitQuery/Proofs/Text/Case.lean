-- The lower case of a part of a text, where it stands and by itself. Every character but the
-- capital sigma has one lower case wherever it stands; a capital sigma looks at the letters
-- around it, and these may lie outside of the part.
import CommitQuery.Proofs.Text.Class
import CommitQuery.Proofs.Text.Pieces
import CommitQuery.Text.Case

namespace CommitQuery.Text

/-! ## Where a part stands -/

/-- The lower case of a part of a text, given what stands before it, nearest first, and what
stands after it. -/
def lowerBetween (before : List Char) : List Char → List Char → List Char
  | [], _ => []
  | c :: rest, after =>
    (if c = 'Σ' then [if endsWord before (rest ++ after) then 'ς' else 'σ'] else lowerChar c) ++
      lowerBetween (c :: before) rest after

theorem lowerFrom_append (before s t : List Char) :
    lowerFrom before (s ++ t) = lowerBetween before s t ++ lowerFrom (s.reverse ++ before) t := by
  induction s generalizing before with
  | nil => rfl
  | cons c rest ih =>
    rw [List.cons_append, lowerFrom, ih, lowerBetween, List.append_assoc, List.reverse_cons,
      List.append_assoc]
    rfl

theorem lowerFrom_eq_lowerBetween (before s : List Char) :
    lowerFrom before s = lowerBetween before s [] := by
  have whole := lowerFrom_append before s []
  rwa [List.append_nil, lowerFrom, List.append_nil] at whole

/-- The lower case of a text in three parts. -/
theorem lowerList_split (before part after : List Char) :
    lowerList (before ++ part ++ after) = lowerBetween [] before (part ++ after) ++
      lowerBetween before.reverse part after ++
        lowerFrom (part.reverse ++ before.reverse) after := by
  rw [lowerList, List.append_assoc, lowerFrom_append, lowerFrom_append, List.append_nil,
    List.append_assoc]

/-! ## Sigmas -/

/-- Every capital sigma of a part ends a word in the whole text if it does in the part. -/
def KeepsSigmas (before part after : List Char) : Prop :=
  ∀ front back, part = front ++ 'Σ' :: back →
    endsWord (before ++ front).reverse (back ++ after) = endsWord front.reverse back

/-- Lower case at two places is the same if each capital sigma gets the same form. -/
theorem lowerBetween_eq_iff {before before' part after after' : List Char} :
    lowerBetween before part after = lowerBetween before' part after' ↔
      ∀ front back, part = front ++ 'Σ' :: back →
        endsWord (front.reverse ++ before) (back ++ after) =
          endsWord (front.reverse ++ before') (back ++ after') := by
  induction part generalizing before before' with
  | nil => simp [lowerBetween]
  | cons c rest ih =>
    have head : (∀ front back, c :: rest = front ++ 'Σ' :: back →
          endsWord (front.reverse ++ before) (back ++ after) =
            endsWord (front.reverse ++ before') (back ++ after')) ↔
        (c = 'Σ' → endsWord before (rest ++ after) = endsWord before' (rest ++ after')) ∧
          lowerBetween (c :: before) rest after = lowerBetween (c :: before') rest after' := by
      rw [ih]
      constructor
      · intro h
        refine ⟨fun hc => h [] rest (hc ▸ rfl), fun front back hrest => ?_⟩
        simpa using h (c :: front) back (hrest ▸ rfl)
      · rintro ⟨first, others⟩ front back split
        cases front with
        | nil =>
          obtain ⟨hc, rfl⟩ := List.cons_eq_cons.mp split
          exact first hc
        | cons d front =>
          obtain ⟨rfl, hrest⟩ := List.cons_eq_cons.mp split
          simpa using others front back hrest
    rw [head, lowerBetween, lowerBetween]
    by_cases hc : c = 'Σ'
    · simp only [hc, if_true, List.singleton_append, List.cons_eq_cons, true_implies]
      refine and_congr_left' ?_
      cases endsWord before (rest ++ after) <;> cases endsWord before' (rest ++ after') <;> decide
    · simp [hc]

/-- A part has the lower case that it has by itself just if its sigmas keep their form. -/
theorem lowerBetween_eq_lowerList_iff {before part after : List Char} :
    lowerBetween before.reverse part after = lowerList part ↔ KeepsSigmas before part after := by
  rw [lowerList, lowerFrom_eq_lowerBetween, lowerBetween_eq_iff]
  simp [KeepsSigmas]

theorem lowerList_infix {before part after : List Char} (keeps : KeepsSigmas before part after) :
    lowerList part <:+: lowerList (before ++ part ++ after) := by
  rw [lowerList_split, lowerBetween_eq_lowerList_iff.mpr keeps]
  exact ⟨_, _, rfl⟩

theorem cased?_append {s : List Char} (h : ∃ c ∈ s, isCaseIgnorable c = false) (t : List Char) :
    cased? (s ++ t) = cased? s := by
  obtain ⟨c, hc, seen⟩ := h
  have rest : s.dropWhile isCaseIgnorable ≠ [] := fun none => by
    rw [List.dropWhile_eq_nil_iff.mp none c hc] at seen
    cases seen
  rw [cased?, cased?, List.dropWhile_append, if_neg (by simpa using rest),
    List.head?_append_of_ne_nil _ rest]

/-- A sigma looks no further than the next letter on either side, so one that has letters of
the part on both sides keeps its form. -/
theorem KeepsSigmas.of_inner {part : List Char}
    (h : ∀ front back, part = front ++ 'Σ' :: back →
      (∃ c ∈ front, isCaseIgnorable c = false) ∧ ∃ c ∈ back, isCaseIgnorable c = false)
    (before after : List Char) : KeepsSigmas before part after := by
  intro front back split
  obtain ⟨⟨c, hc, seen⟩, behind⟩ := h front back split
  rw [endsWord, endsWord, List.reverse_append,
    cased?_append ⟨c, List.mem_reverse.mpr hc, seen⟩, cased?_append behind]

theorem KeepsSigmas.of_not_mem {part : List Char} (h : 'Σ' ∉ part) (before after : List Char) :
    KeepsSigmas before part after := by
  refine .of_inner (fun front back split => absurd ?_ h) before after
  simp [split]

/-! ## Bytes -/

/-- The lower case of a text has as many bytes as the text. -/
def KeepsLength (s : List Char) : Prop := utf8Length (lowerList s) = utf8Length s

/-- The lower case of a character has as many bytes as the character. -/
def KeepsBytes (c : Char) : Prop := utf8Length (lowerChar c) = c.utf8Size

/-- Lower case takes the characters of a text one by one, each to one with as many bytes. -/
def Aligned (s : List Char) : Prop := ∀ c ∈ s, c ≠ 'Σ' ∧ KeepsBytes c

instance (s : List Char) : Decidable (KeepsLength s) := inferInstanceAs (Decidable (_ = _))

instance (c : Char) : Decidable (KeepsBytes c) := inferInstanceAs (Decidable (_ = _))

instance (s : List Char) : Decidable (Aligned s) := List.decidableBAll _ s

/-- Both small sigmas have two bytes, so the length does not depend on the place. -/
theorem utf8Length_lowerBetween (before part after : List Char) :
    utf8Length (lowerBetween before part after) = utf8Length (part.flatMap lowerChar) := by
  induction part generalizing before with
  | nil => rfl
  | cons c rest ih =>
    rw [lowerBetween, List.flatMap_cons, utf8Length_append, utf8Length_append, ih]
    split
    · rename_i sigma
      subst sigma
      cases endsWord before (rest ++ after) <;> rfl
    · rfl

theorem utf8Length_lowerBetween_eq (before part after : List Char) :
    utf8Length (lowerBetween before part after) = utf8Length (lowerList part) := by
  rw [lowerList, lowerFrom_eq_lowerBetween, utf8Length_lowerBetween, utf8Length_lowerBetween]

/-- Only the dotted capital I has more than one character as its lower case, and these have
more bytes. -/
theorem KeepsBytes.exists_eq {c : Char} (h : KeepsBytes c) : ∃ d, lowerChar c = [d] := by
  unfold KeepsBytes at h
  unfold lowerChar mapCase at h ⊢
  split
  · exact ⟨_, rfl⟩
  · rename_i wide
    rw [if_neg wide] at h
    cases found : lowerExpansions.find? (·.1 == c.toNat) with
    | none => exact ⟨_, rfl⟩
    | some expansion =>
      have dotted : c = 'İ' := by
        have := List.find?_some found
        have mem := List.mem_of_find?_eq_some found
        rw [List.mem_singleton.mp mem, beq_iff_eq] at this
        exact Char.toNat_inj.mp this.symm
      subst dotted
      cases h

/-- The first character of the lower case of a character. -/
def lowerOne (c : Char) : Char := (lowerChar c).headD c

theorem KeepsBytes.lowerChar_eq {c : Char} (h : KeepsBytes c) : lowerChar c = [lowerOne c] := by
  obtain ⟨d, hd⟩ := h.exists_eq
  rw [lowerOne, hd]
  rfl

theorem Aligned.lowerList_eq {s : List Char} (h : Aligned s) : lowerList s = s.map lowerOne := by
  suffices ∀ before, lowerFrom before s = s.map lowerOne from this []
  induction s with
  | nil => exact fun _ => rfl
  | cons c rest ih =>
    intro before
    obtain ⟨⟨plain, keeps⟩, hrest⟩ := List.forall_mem_cons.mp h
    rw [lowerFrom, if_neg plain, ih hrest, keeps.lowerChar_eq]
    rfl

theorem Aligned.keepsLength {s : List Char} (h : Aligned s) : KeepsLength s := by
  rw [KeepsLength, h.lowerList_eq]
  induction s with
  | nil => rfl
  | cons c rest ih =>
    obtain ⟨⟨_, keeps⟩, hrest⟩ := List.forall_mem_cons.mp h
    have size : utf8Length [lowerOne c] = c.utf8Size := keeps.lowerChar_eq ▸ keeps
    rw [List.map_cons, utf8Length_cons, utf8Length_cons, ih hrest, ← size]
    rfl

theorem Aligned.left {s t : List Char} (h : Aligned (s ++ t)) : Aligned s :=
  fun c hc => h c (List.mem_append_left _ hc)

theorem Aligned.right {s t : List Char} (h : Aligned (s ++ t)) : Aligned t :=
  fun c hc => h c (List.mem_append_right _ hc)

/-- Characters of seven bits are taken one by one. -/
theorem aligned_of_ascii {s : List Char} (h : ∀ c ∈ s, c.toNat < 128) : Aligned s := by
  intro c hc
  have small := h c hc
  have lower : (asciiLower c).toNat < 128 := by
    rw [toNat_asciiLower]
    split <;> omega
  have one : ∀ d : Char, d.toNat < 128 → d.utf8Size = 1 := fun d hd =>
    Char.utf8Size_eq_one_iff.mpr (UInt32.le_iff_toNat_le.mpr (Nat.le_of_lt_succ hd))
  refine ⟨?_, ?_⟩
  · rintro rfl
    exact absurd small (by decide)
  · rw [KeepsBytes, lowerChar, if_pos small, utf8Length_cons, one _ lower, one c small]
    rfl

theorem lowerList_of_ascii {s : List Char} (h : ∀ c ∈ s, c.toNat < 128) :
    lowerList s = s.map asciiLower := by
  rw [(aligned_of_ascii h).lowerList_eq]
  refine List.map_congr_left fun c hc => ?_
  rw [lowerOne, lowerChar, if_pos (h c hc), List.headD_cons]

end CommitQuery.Text
