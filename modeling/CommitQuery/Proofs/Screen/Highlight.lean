-- The part of a line that the panel of matches makes bold. It begins where the lower case of
-- the line has that of the search, and it is as long as the search was typed, in bytes: a
-- search whose lower case has more bytes, or fewer, makes it end at another character.
import CommitQuery.Proofs.Text.Case
import CommitQuery.Screen.Matches

namespace CommitQuery.Screen

open CommitQuery.Text

variable (o : Options) {line search before hit after : List Char}

/-- A line is shown in three parts, with the second of them in bold. -/
def Marks (line search before hit after : List Char) : Prop :=
  line = before ++ hit ++ after ∧
    highlight o line search = before ++ o.bold highlighted hit ++ after

/-- The second of three parts of a line is the first one that shows a text, whatever the case. -/
def FirstShown (line search before hit after : List Char) : Prop :=
  line = before ++ hit ++ after ∧ lowerList hit = lowerList search ∧
    ∀ front other back, line = front ++ other ++ back → lowerList other = lowerList search →
      before.length ≤ front.length

/-! ## The place in bytes -/

/-- The bold part begins as many bytes behind the beginning of the line as the lower case of
the search does in that of the line, and has as many bytes as the search. -/
def Placed (line search before hit : List Char) : Prop :=
  utf8Length hit = utf8Length search ∧ ∃ start rest,
    splitFirst (lowerList search) (lowerList line) = some (start, rest) ∧
      utf8Length before = utf8Length start

theorem highlight_cases (line search : List Char) : highlight o line search = line ∨
    ∃ before hit after, Marks o line search before hit after ∧ Placed line search before hit := by
  unfold Marks highlight
  split
  · exact .inl rfl
  dsimp only
  split
  · exact .inl rfl
  split
  · exact .inl rfl
  rename_i start rest found
  split
  · exact .inl rfl
  rename_i before behind front
  split
  · exact .inl rfl
  rename_i hit after back
  obtain ⟨whole, begins⟩ := splitBytes?_eq_some.mp front
  obtain ⟨rfl, ends⟩ := splitBytes?_eq_some.mp back
  refine .inr ⟨before, hit, after, ⟨?_, rfl⟩, ends, start, rest, found, begins⟩
  rw [whole, List.append_assoc]

/-- A place whose bytes begin and end characters of the line is shown in bold. -/
theorem Placed.marks {o : Options} (color : o.color = true) (some_search : search ≠ [])
    (length : KeepsLength line) (whole : line = before ++ hit ++ after)
    (h : Placed line search before hit) : Marks o line search before hit after := by
  obtain ⟨ends, start, rest, found, begins⟩ := h
  have front : splitBytes? (utf8Length start) line = some (before, hit ++ after) :=
    splitBytes?_eq_some.mpr ⟨by rw [whole, List.append_assoc], begins⟩
  have back : splitBytes? (utf8Length search) (hit ++ after) = some (hit, after) :=
    splitBytes?_eq_some.mpr ⟨rfl, ends⟩
  have shown : (!o.color || search.isEmpty) = false := by simpa [color] using some_search
  have same : ¬utf8Length (lowerList line) ≠ utf8Length line := not_not_intro length
  refine ⟨whole, ?_⟩
  simp only [highlight, shown, Bool.false_eq_true, if_false, if_neg same, found, front, back]

/-- Where lower case moves neither its beginning nor its end, the bold part shows the search
just if that has as many bytes in lower case and the sigmas of the part keep their form. -/
theorem Placed.same_iff (whole : line = before ++ hit ++ after)
    (h : Placed line search before hit) (front : KeepsLength before) (part : KeepsLength hit) :
    lowerList hit = lowerList search ↔ KeepsLength search ∧ KeepsSigmas before hit after := by
  obtain ⟨ends, start, rest, found, begins⟩ := h
  have parts : lowerBetween before.reverse hit after ++
      lowerFrom (hit.reverse ++ before.reverse) after = lowerList search ++ rest := by
    have lower := (splitFirst_eq_some found).1
    rw [whole, lowerList_split, List.append_assoc, List.append_assoc] at lower
    refine (append_inj_of_utf8Length lower ?_).2
    rw [utf8Length_lowerBetween_eq, front, begins]
  have there : utf8Length (lowerList hit) = utf8Length (lowerList search) →
      lowerBetween before.reverse hit after = lowerList search := fun bytes =>
    (append_inj_of_utf8Length parts ((utf8Length_lowerBetween_eq _ _ _).trans bytes)).1
  constructor
  · intro same
    refine ⟨?_, lowerBetween_eq_lowerList_iff.mp ((there (by rw [same])).trans same.symm)⟩
    rw [KeepsLength, ← same, part, ends]
  · rintro ⟨length, keeps⟩
    rw [← lowerBetween_eq_lowerList_iff.mpr keeps]
    exact there (by rw [part, length, ends])

/-! ## Lines taken by the character -/

/-- In the lower case of a line that is taken by the character, a place is one of the line. -/
theorem exists_placed (h : Aligned line) (length : KeepsLength search)
    (found : ∃ part, part <:+: line ∧ lowerList part = lowerList search) :
    ∃ before hit after, FirstShown line search before hit after ∧
      Placed line search before hit := by
  have shown : lowerList search <:+: lowerList line := by
    obtain ⟨part, ⟨front, back, rfl⟩, same⟩ := found
    have plain : 'Σ' ∉ part := fun sigma => (h.left.right _ sigma).1 rfl
    exact same ▸ lowerList_infix (.of_not_mem plain front back)
  obtain ⟨start, rest, split⟩ := exists_splitFirst shown
  obtain ⟨lower, first⟩ := splitFirst_eq_some split
  have map : line.map lowerOne = start ++ lowerList search ++ rest := h.lowerList_eq ▸ lower
  obtain ⟨front, after, rfl, lowerFront, -⟩ := List.map_eq_append_iff.mp map
  obtain ⟨before, hit, rfl, lowerBefore, lowerHit⟩ := List.map_eq_append_iff.mp lowerFront
  rw [← h.left.left.lowerList_eq] at lowerBefore
  rw [← h.left.right.lowerList_eq] at lowerHit
  refine ⟨before, hit, after, ⟨rfl, lowerHit, fun front other back whole same => ?_⟩, ?_, start,
    rest, split, ?_⟩
  · have aligned : Aligned (front ++ other ++ back) := whole ▸ h
    have place := first (lowerList front) (lowerList back) (by
      rw [whole, ← same, aligned.lowerList_eq, aligned.left.left.lowerList_eq,
        aligned.left.right.lowerList_eq, aligned.right.lowerList_eq]
      simp only [List.map_append])
    rw [← lowerBefore, h.left.left.lowerList_eq, aligned.left.left.lowerList_eq] at place
    simpa only [List.length_map] using place
  · rw [← h.left.right.keepsLength, lowerHit, length]
  · rw [← lowerBefore, h.left.left.keepsLength]

/-! ## The law -/

/-- A line is shown as it is, or with a part of it in bold that has as many bytes as the
search. If lower case moves neither end of this part, it shows the search just if the lower
case of the search has as many bytes as the search and the part would have its lower case by
itself. The first part that shows the search is made bold in every line that lower case takes
by the character, and that is every line of seven-bit characters. -/
theorem the_match_is_highlighted_where_lower_case_keeps_bytes {o : Options}
    (color : o.color = true) (line : List Char) {search : List Char} (some_search : search ≠ []) :
    (highlight o line search = line ∨ ∃ before hit after, Marks o line search before hit after ∧
      utf8Length hit = utf8Length search ∧
      (KeepsLength before → KeepsLength hit →
        (lowerList hit = lowerList search ↔
          KeepsLength search ∧ KeepsSigmas before hit after))) ∧
    ((∃ part, part <:+: line ∧ lowerList part = lowerList search) →
      Aligned line ∧ KeepsLength search ∨ (∀ c ∈ line ++ search, c.toNat < 128) →
        ∃ before hit after, Marks o line search before hit after ∧
          FirstShown line search before hit after) := by
  refine ⟨?_, fun found plain => ?_⟩
  · rcases highlight_cases o line search with same | ⟨before, hit, after, marks, placed⟩
    · exact .inl same
    · exact .inr ⟨before, hit, after, marks, placed.1, placed.same_iff marks.1⟩
  · have kept : Aligned line ∧ KeepsLength search := by
      rcases plain with kept | ascii
      · exact kept
      · have aligned := aligned_of_ascii ascii
        exact ⟨aligned.left, aligned.right.keepsLength⟩
    obtain ⟨before, hit, after, first, placed⟩ := exists_placed kept.1 kept.2 found
    exact ⟨before, hit, after, placed.marks color some_search kept.1.keepsLength first.1, first⟩

/-- A part of a word whose letters are not all of seven bits. -/
theorem a_part_of_a_word_is_highlighted :
    let o : Options := ⟨true, 20, 50, none⟩
    let line := "Grün 12".toList
    let search := "RÜN".toList
    o.color = true ∧ search ≠ [] ∧ (Aligned line ∧ KeepsLength search) ∧
      ∃ before hit after, Marks o line search before hit after ∧
        FirstShown line search before hit after := by
  intro o line search
  have kept : Aligned line ∧ KeepsLength search := by decide +kernel
  have found : ∃ part, part <:+: line ∧ lowerList part = lowerList search :=
    ⟨"rün".toList, ⟨['G'], " 12".toList, by decide⟩, by decide +kernel⟩
  exact ⟨rfl, by decide, kept, (the_match_is_highlighted_where_lower_case_keeps_bytes rfl line
    (by decide)).2 found (.inl kept)⟩

/-- A search whose capital sharp s has a byte more than the small one: the blank behind the
word is made bold with it. -/
theorem a_blank_is_highlighted_with_the_match :
    let o : Options := ⟨true, 20, 50, none⟩
    let line := "straße 12".toList
    let search := "STRAẞE".toList
    highlight o line search = o.bold highlighted "straße ".toList ++ "12".toList ∧
      ¬(highlight o line search = line ∨ ∃ before hit after,
        Marks o line search before hit after ∧ lowerList hit = lowerList search) := by
  intro o line search
  have parts : ∀ i ≤ line.length, ∀ j ≤ line.length,
      lowerList ((line.drop i).take j) = lowerList search →
        highlight o line search ≠
          line.take i ++ o.bold highlighted ((line.drop i).take j) ++ line.drop (i + j) := by
    decide +kernel
  refine ⟨by decide +kernel, ?_⟩
  rintro (same | ⟨before, hit, after, ⟨whole, shown⟩, lower⟩)
  · exact absurd same (by decide +kernel)
  · have length : line.length = before.length + (hit.length + after.length) := by simp [whole]
    have front : line.take before.length = before := by simp [whole]
    have middle : (line.drop before.length).take hit.length = hit := by simp [whole]
    have back : line.drop (before.length + hit.length) = after := by simp [whole, ← List.drop_drop]
    have place := parts before.length (by omega) hit.length (by omega)
    rw [front, middle, back] at place
    exact place lower shown

end CommitQuery.Screen
