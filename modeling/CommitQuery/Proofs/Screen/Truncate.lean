-- Texts that are cut to a width. The longest beginning is kept whose characters take the
-- columns in front of the ellipsis; a text over its width after that is one whose characters
-- take more columns together than by themselves, or one without room for the ellipsis.
import CommitQuery.Proofs.Text.Width
import CommitQuery.Screen.Layout

namespace CommitQuery.Text

/-! ## Beginnings of a text -/

/-- A character in front of the beginning of a text widens no more than in front of it all. -/
theorem widening_le_of_isPrefix (c : Char) {front rest : List Char} (h : front <+: rest) :
    widening c front ≤ widening c rest := by
  obtain ⟨back, rfl⟩ := h
  unfold widening
  cases front with
  | nil => simp
  | cons next more => exact Nat.le_refl _

theorem widenings_le_of_isPrefix {front s : List Char} (h : front <+: s) :
    widenings front ≤ widenings s := by
  induction front generalizing s with
  | nil => exact Nat.zero_le _
  | cons c front ih =>
    obtain ⟨rest, rfl, more⟩ := List.cons_prefix_iff.mp h
    exact Nat.add_le_add (widening_le_of_isPrefix c more) (ih more)

end CommitQuery.Text

namespace CommitQuery.Screen

open CommitQuery.Text

/-! ## What is kept -/

theorem fitting_isPrefix (budget : Nat) (text : List Char) : fitting budget text <+: text := by
  induction text generalizing budget with
  | nil => exact List.prefix_rfl
  | cons c rest ih =>
    rw [fitting]
    split
    · exact (List.prefix_cons_inj c).mpr (ih _)
    · exact List.nil_prefix

theorem columns_fitting_le (budget : Nat) (text : List Char) :
    columns (fitting budget text) ≤ budget := by
  induction text generalizing budget with
  | nil => exact Nat.zero_le _
  | cons c rest ih =>
    rw [fitting]
    split
    case isTrue fits =>
      have more := ih (budget - charWidth c)
      rw [columns_cons]
      omega
    case isFalse => exact Nat.zero_le _

/-- No beginning of the text that is longer fits. -/
theorem isPrefix_fitting_of_le {budget : Nat} {front text : List Char} (h : front <+: text)
    (fits : columns front ≤ budget) : front <+: fitting budget text := by
  induction front generalizing text budget with
  | nil => exact List.nil_prefix
  | cons c front ih =>
    obtain ⟨rest, rfl, more⟩ := List.cons_prefix_iff.mp h
    rw [columns_cons] at fits
    rw [fitting, if_pos (by omega)]
    exact (List.prefix_cons_inj c).mpr (ih more (by omega))

/-! ## What is shown -/

theorem standsAlone_ellipsis : StandsAlone ellipsis := by decide +kernel

theorem displayWidth_ellipsis : displayWidth ellipsis = 3 := by decide +kernel

theorem displayWidth_cut (kept : List Char) :
    displayWidth (kept ++ ellipsis) = displayWidth kept + 3 := by
  rw [displayWidth_append standsAlone_ellipsis, displayWidth_ellipsis]

theorem displayWidth_fitting_le (budget : Nat) (text : List Char) :
    displayWidth (fitting budget text) ≤ budget + widenings (fitting budget text) := by
  have all := displayWidth_le (fitting budget text)
  have own := columns_fitting_le budget text
  omega

/-- The width of a text after it was cut to another one. -/
theorem displayWidth_truncate_le_iff (text : List Char) (max : Nat) :
    displayWidth (truncate text max) ≤ max ↔
      displayWidth text ≤ max ∨ 3 ≤ max ∧ displayWidth (fitting (max - 3) text) ≤ max - 3 := by
  unfold truncate
  split
  case isTrue fits => simp [fits]
  case isFalse wide =>
    rw [show ellipsis.length = 3 from rfl, displayWidth_cut]
    omega

/-! ## The law -/

/-- A text that takes at most `max` columns stays as it is. Of any other the longest beginning
is kept whose characters take three columns less by themselves, with an ellipsis behind it.
What is shown then takes at most `max` columns just if there is room for the ellipsis and what
is kept takes no more together: it does so if no character of the text is a control or an
emoji by its selector, and else it exceeds the limit by the columns of these at most. -/
theorem a_text_is_cut_to_its_width_unless_characters_widen (text : List Char) (max : Nat) :
    let kept := fitting (max - 3) text
    (displayWidth text ≤ max → truncate text max = text) ∧
      (max < displayWidth text →
        truncate text max = kept ++ ellipsis ∧ kept <+: text ∧ columns kept ≤ max - 3 ∧
          (∀ front, front <+: text → columns front ≤ max - 3 → front <+: kept) ∧
          displayWidth (truncate text max) = displayWidth kept + 3 ∧
          displayWidth kept ≤ max - 3 + widenings kept) ∧
      (displayWidth (truncate text max) ≤ max ↔
        displayWidth text ≤ max ∨ 3 ≤ max ∧ displayWidth kept ≤ max - 3) ∧
      (3 ≤ max → widenings text = 0 → displayWidth (truncate text max) ≤ max) := by
  intro kept
  refine ⟨fun fits => if_pos fits, fun wide => ?_, displayWidth_truncate_le_iff text max,
    fun room narrow => ?_⟩
  · have cut : truncate text max = kept ++ ellipsis := if_neg (Nat.not_le_of_lt wide)
    refine ⟨cut, fitting_isPrefix _ _, columns_fitting_le _ _,
      fun front => isPrefix_fitting_of_le, ?_, displayWidth_fitting_le _ _⟩
    rw [cut, displayWidth_cut]
  · have fewer : widenings kept ≤ widenings text := widenings_le_of_isPrefix (fitting_isPrefix _ _)
    have shown : displayWidth kept ≤ max - 3 + widenings kept := displayWidth_fitting_le _ _
    have exact_fit : displayWidth kept ≤ max - 3 := by omega
    exact (displayWidth_truncate_le_iff text max).mpr (.inr ⟨room, exact_fit⟩)

/-- Hearts that a selector makes emojis take two columns each and one by themselves; tabs
take one and none by themselves; and without room the ellipsis takes three. -/
theorem hearts_and_tabs_are_wider_than_their_limit :
    truncate "❤️❤️❤️❤️".toList 7 = "❤️❤️❤️❤️...".toList ∧
      displayWidth (truncate "❤️❤️❤️❤️".toList 7) = 11 ∧
      displayWidth (truncate "\t\t\t\t\t".toList 4) = 8 ∧
      displayWidth (truncate "abc".toList 2) = 3 := by
  decide +kernel

end CommitQuery.Screen
