-- The display width of texts in parts. A width is never negative, the widths of two texts add
-- up where the second one starts with a space or a stop, and a text takes no more columns
-- than its characters by themselves, but for those that widen in a text.
import Mathlib.Data.List.Chain
import Mathlib.Data.List.TakeWhile
import Mathlib.Tactic.SplitIfs
import CommitQuery.Proofs.Text.Class
import CommitQuery.Text.Pieces
import CommitQuery.Text.Width

namespace CommitQuery.Text

/-! ## Tables that lie apart -/

/-- The order of ranges in a table. -/
def StartsBy (a b : Nat × Nat) : Prop := a.1 ≤ b.1

instance (a b : Nat × Nat) : Decidable (StartsBy a b) := inferInstanceAs (Decidable (a.1 ≤ b.1))

instance : Trans StartsBy StartsBy StartsBy := ⟨Nat.le_trans⟩

/-- Whether two tables in order have no code point in common. Each is walked through once. -/
def isApart : CodeRanges → CodeRanges → Bool
  | [], _ => true
  | r :: rest, others =>
    let later := others.dropWhile fun q => q.2 < r.1
    later.head?.all (fun q => r.2 < q.1) && isApart rest later

theorem apart_of_isApart {ranges others : CodeRanges} (sorted : ranges.IsChain StartsBy)
    (others_sorted : others.IsChain StartsBy) (apart : isApart ranges others = true) :
    ∀ r ∈ ranges, ∀ q ∈ others, r.2 < q.1 ∨ q.2 < r.1 := by
  rw [List.isChain_iff_pairwise] at sorted others_sorted
  induction ranges generalizing others with
  | nil => exact fun r hr => absurd hr List.not_mem_nil
  | cons r rest ih =>
    obtain ⟨first, rest_sorted⟩ := List.pairwise_cons.mp sorted
    rw [isApart, Bool.and_eq_true] at apart
    obtain ⟨head, later_apart⟩ := apart
    have later_sorted := others_sorted.sublist (List.dropWhile_sublist fun q => q.2 < r.1)
    have skipped : ∀ q ∈ others.takeWhile (fun q => q.2 < r.1), q.2 < r.1 := fun q hq => by
      simpa using List.mem_takeWhile_imp hq
    intro p hp q hq
    rw [← List.takeWhile_append_dropWhile (p := fun q => q.2 < r.1) (l := others)] at hq
    have from_first : r.1 ≤ p.1 := by
      rcases List.mem_cons.mp hp with rfl | hp
      · exact Nat.le_refl _
      · exact first p hp
    rcases List.mem_append.mp hq with hq | hq
    · exact .inr (Nat.lt_of_lt_of_le (skipped q hq) from_first)
    · rcases List.mem_cons.mp hp with rfl | hp
      · obtain ⟨next, more, later⟩ := List.exists_cons_of_ne_nil (List.ne_nil_of_mem hq)
        rw [later] at head hq later_sorted
        have next_apart : p.2 < next.1 := by simpa using head
        rcases List.mem_cons.mp hq with rfl | hq
        · exact .inl next_apart
        · exact .inl (Nat.lt_of_lt_of_le next_apart ((List.pairwise_cons.mp later_sorted).1 q hq))
      · exact ih rest_sorted later_sorted later_apart p hp q hq

/-! ## Single characters -/

/-- A table in order that holds no marks and no controls. -/
structure TakesColumns (ranges : CodeRanges) : Prop where
  sorted : ranges.IsChain StartsBy
  apart : isApart ranges zeroWidthRanges = true
  shown : ∀ r ∈ ranges, 0x20 ≤ r.1 ∧ r.2 < 0x7F ∨ 0xA0 ≤ r.1

theorem TakesColumns.one_le {ranges : CodeRanges} (table : TakesColumns ranges) {c : Char}
    (h : ranges.contains c = true) : 1 ≤ charWidth c := by
  have no_mark : zeroWidthRanges.contains c = false :=
    contains_of_apart ranges (apart_of_isApart table.sorted (by decide +kernel) table.apart) h
  obtain ⟨r, hr, hc⟩ := List.any_eq_true.mp h
  simp only [Bool.and_eq_true, decide_eq_true_eq] at hc
  have place := table.shown r hr
  unfold charWidth
  split_ifs <;> first | omega | simp_all

theorem takesColumns_region : TakesColumns regionRanges :=
  ⟨by decide +kernel, by decide +kernel, by decide +kernel⟩

theorem takesColumns_coengLetter : TakesColumns coengLetterRanges :=
  ⟨by decide +kernel, by decide +kernel, by decide +kernel⟩

theorem takesColumns_textVariation : TakesColumns textVariationRanges :=
  ⟨by decide +kernel, by decide +kernel, by decide +kernel⟩

/-- A character that is shown, up to the space that does not break. -/
theorem takesColumns_latin : TakesColumns [(0x20, 0x7E), (0xA0, 0xA0)] :=
  ⟨by decide +kernel, by decide +kernel, by decide +kernel⟩

/-! ## An account of columns -/

/-- The columns that the next character may take back. They were added for this context. -/
def owed : Following → Int
  | .letter .tifinaghJoined _ | .letter .coengLetter _ => 1
  | .joined .oneRegion | .joined .oddRegions => 1
  | _ => 0

/-- The columns that the next character may add beyond its own. They were taken off before. -/
def spare : Following → Int
  | .joined .evenRegions => 2
  | _ => 0

theorem owed_nonneg (f : Following) : 0 ≤ owed f := by
  unfold owed
  split <;> decide

theorem spare_nonneg (f : Following) : 0 ≤ spare f := by
  unfold spare
  split <;> decide

/-- No more stands open in front of one text than in front of another. -/
structure OpensNoMore (f g : Following) : Prop where
  owed_le : owed f ≤ owed g
  spare_le : spare f ≤ spare g

theorem opensNoMore_self (f : Following) : OpensNoMore f f :=
  ⟨Int.le_refl _, Int.le_refl _⟩

theorem opensNoMore_of_none {f : Following} (none_owed : owed f = 0) (none_spare : spare f = 0)
    (g : Following) : OpensNoMore f g := by
  constructor
  · rw [none_owed]
    exact owed_nonneg g
  · rw [none_spare]
    exact spare_nonneg g

theorem opensNoMore_withoutSelector (f : Following) : OpensNoMore f.withoutSelector f := by
  unfold Following.withoutSelector
  split
  · exact opensNoMore_self _
  · exact opensNoMore_of_none rfl rfl f

theorem opensNoMore_throughSelector (f : Following) : OpensNoMore f.throughSelector f := by
  unfold Following.throughSelector
  split
  · exact opensNoMore_self _
  · exact opensNoMore_self _
  · exact opensNoMore_self _
  · exact opensNoMore_of_none rfl rfl f

/-! ## One step -/

/-- A control that is shown as a column in a text and takes none by itself. -/
def isControl (c : Char) : Bool :=
  c ≠ '\n' && (c.toNat < 0x20 || 0x7F ≤ c.toNat && c.toNat < 0xA0)

/-- The column that a text may show for a control or for the joiner of Tifinagh. -/
def controlColumn (c : Char) : Nat :=
  if isControl c || c.toNat = 0x2D7F then 1 else 0

/-- The columns that a character may take in front of a text besides its own: those of a
control, and those of a character that a selector makes an emoji. -/
def widening (c : Char) (rest : List Char) : Nat :=
  controlColumn c +
    if rest.head? = some '\ufe0f' && emojiVariationRanges.contains c then 2 - charWidth c else 0

/-- A step over a character that keeps to the account: what it takes back is owed, and what it
adds is its own, spare or an extra. -/
structure KeepsAccount (next : Following) (c : Char) (extra : Nat) (columns : Int)
    (before : Following) : Prop where
  least : owed before ≤ columns + owed next
  most : columns + spare before ≤ charWidth c + extra + spare next

/-- A step that adds nothing keeps to the account if it opens nothing. -/
theorem keepsAccount_zero (c : Char) (extra : Nat) {next before : Following}
    (h : OpensNoMore before next) : KeepsAccount next c extra 0 before := by
  obtain ⟨least, most⟩ := h
  exact ⟨by omega, by omega⟩

/-- A step over a character that leaves what follows alone pays with its own columns. -/
theorem keepsAccount_own {c : Char} {extra : Nat} {columns : Int} (next : Following)
    {before : Following} (least : owed before ≤ columns) (most : columns ≤ charWidth c + extra)
    (none_spare : spare before = 0) : KeepsAccount next c extra columns before := by
  have debt := owed_nonneg next
  have room := spare_nonneg next
  exact ⟨by omega, by omega⟩

theorem KeepsAccount.mono {next next' before : Following} {c : Char} {extra extra' : Nat}
    {columns : Int} (h : KeepsAccount next c extra columns before) (opens : OpensNoMore next next')
    (more : extra ≤ extra') : KeepsAccount next' c extra' columns before := by
  obtain ⟨owed_le, spare_le⟩ := opens
  obtain ⟨least, most⟩ := h
  exact ⟨by omega, by omega⟩

/-- Letters that join take no columns, but for the joiner of Tifinagh and what takes it back. -/
theorem keepsAccount_joinLetter {l : JoiningLetter} {joiner : Bool} {c : Char} {columns : Int}
    {f : Following} (h : joinLetter l joiner c = some (columns, f)) :
    KeepsAccount (.letter l joiner) c (controlColumn c) columns f := by
  have joined : c.toNat = 0x2D7F → controlColumn c = 1 := fun hc => by simp [controlColumn, hc]
  cases l <;> simp only [joinLetter, reduceCtorEq, if_false, if_true] at h <;> split_ifs at h <;>
    cases h <;> constructor <;> simp [owed, spare] <;> omega

theorem keepsAccount_ligature {next f : Following} {c : Char} {columns : Int}
    (h : ligature next c = some (columns, f)) :
    KeepsAccount next c (controlColumn c) columns f := by
  have region : regionRanges.contains c = true → 1 ≤ charWidth c := takesColumns_region.one_le
  unfold ligature at h
  split at h
  case h_1 => exact keepsAccount_joinLetter h
  case h_13 => cases h
  -- Only the letters of flags add columns or take them back; the other steps add none.
  all_goals
    dsimp only at h
    split_ifs at h
    all_goals
      cases h
      first
        | exact keepsAccount_zero c _ (opensNoMore_of_none rfl rfl _)
        | have own := region (by assumption)
          exact ⟨by simp [owed], by simp only [spare]; omega⟩

/-- Of the characters by themselves only a Khmer letter is owed a column. -/
theorem account_following (c : Char) :
    owed (following c) ≤ charWidth c ∧ spare (following c) = 0 := by
  unfold following
  dsimp only
  let P (f : Following) : Prop := owed f ≤ charWidth c ∧ spare f = 0
  repeat' refine iteInduction (motive := P) (fun _ => ?_) fun _ => ?_
  all_goals refine ⟨?_, rfl⟩
  all_goals first
    | exact Int.natCast_nonneg _
    | exact Int.ofNat_le.mpr (takesColumns_coengLetter.one_le (by assumption))

/-- A character up to the space that does not break is a control, a line end or shown. -/
theorem one_le_of_latin {c : Char} (latin : c.toNat ≤ 0xA0) (no_end : c ≠ '\n') :
    1 ≤ charWidth c + controlColumn c := by
  by_cases control : isControl c = true
  · simp [controlColumn, control]
  · have shown : CodeRanges.contains [(0x20, 0x7E), (0xA0, 0xA0)] c = true := by
      simp [isControl, no_end] at control
      simp [CodeRanges.contains]
      omega
    exact Nat.le_add_right_of_le (takesColumns_latin.one_le shown)

theorem keepsAccount_widthBefore (c : Char) (next : Following) :
    KeepsAccount next c (controlColumn c) (widthBefore c next).1
      (widthBefore c next).2.following := by
  unfold widthBefore
  split_ifs with latin line_end carriage emoji text
  · exact keepsAccount_zero c _ (opensNoMore_of_none rfl rfl next)
  · exact keepsAccount_zero c _ (opensNoMore_of_none rfl rfl next)
  · have shown := one_le_of_latin latin line_end
    exact keepsAccount_own next (by decide) (by omega) rfl
  · exact keepsAccount_zero c _ (opensNoMore_throughSelector next)
  · exact keepsAccount_zero c _ (opensNoMore_withoutSelector next)
  · split
    case h_1 columns f h => exact keepsAccount_ligature h
    case h_2 =>
      obtain ⟨least, none_spare⟩ := account_following c
      exact keepsAccount_own next least (by omega) none_spare

/-- A step over a character keeps to the account, with the columns that the character may
widen by. -/
theorem keepsAccount_widthStep {c : Char} {rest : List Char} {next : Context}
    (selector : next.emojiSelector = true → rest.head? = some '\ufe0f') :
    KeepsAccount next.following c (widening c rest) (widthStep c next).1
      (widthStep c next).2.following := by
  have control : controlColumn c ≤ widening c rest := Nat.le_add_right _ _
  unfold widthStep
  split_ifs with emoji text selected
  · rw [Bool.and_eq_true] at emoji
    split
    · exact keepsAccount_zero c _ (opensNoMore_of_none rfl rfl _)
    · have wide : 2 ≤ charWidth c + widening c rest := by
        simp [widening, selector emoji.1, emoji.2]
        omega
      exact keepsAccount_own _ (by decide) (by omega) rfl
  · rw [Bool.and_eq_true] at text
    have own := takesColumns_textVariation.one_le text.2
    exact keepsAccount_own _ (by decide) (by omega) rfl
  · exact (keepsAccount_widthBefore c _).mono (opensNoMore_withoutSelector _) control
  · exact (keepsAccount_widthBefore c _).mono (opensNoMore_self _) control

/-! ## The selector of an emoji -/

theorem emojiSelector_widthBefore {c : Char} {next : Following}
    (h : (widthBefore c next).2.emojiSelector = true) : c = '\ufe0f' := by
  unfold widthBefore at h
  split_ifs at h with latin line_end carriage emoji text
  · cases h
  · cases h
  · cases h
  · exact Char.toNat_inj.mp emoji
  · split at h <;> cases h

theorem emojiSelector_widthStep {c : Char} {next : Context}
    (h : (widthStep c next).2.emojiSelector = true) : c = '\ufe0f' := by
  unfold widthStep at h
  split_ifs at h
  · split at h <;> cases h
  · cases h
  · exact emojiSelector_widthBefore h
  · exact emojiSelector_widthBefore h

/-- Only the selector that a text starts with makes an emoji of what stands before the text. -/
theorem head?_of_emojiSelector {s : List Char} (h : (widthFrom s).2.emojiSelector = true) :
    s.head? = some '\ufe0f' := by
  cases s with
  | nil => cases h
  | cons c rest => exact congrArg some (emojiSelector_widthStep h)

/-! ## The columns of a text -/

/-- The columns of the characters of a text by themselves. -/
def columns (s : List Char) : Nat := total (s.map charWidth)

/-- The columns that the characters of a text may take besides. -/
def widenings : List Char → Nat
  | [] => 0
  | c :: rest => widening c rest + widenings rest

theorem columns_cons (c : Char) (rest : List Char) :
    columns (c :: rest) = charWidth c + columns rest := rfl

/-- The account over a whole text: what is owed has been added, and all that was added is the
characters' own or an extra. -/
theorem account_widthFrom (s : List Char) :
    owed (widthFrom s).2.following ≤ (widthFrom s).1 ∧
      (widthFrom s).1 + spare (widthFrom s).2.following ≤ (columns s + widenings s : Nat) := by
  induction s with
  | nil => exact ⟨by decide, by decide⟩
  | cons c rest ih =>
    obtain ⟨least, most⟩ := ih
    have step : KeepsAccount (widthFrom rest).2.following c (widening c rest)
        (widthStep c (widthFrom rest).2).1 (widthStep c (widthFrom rest).2).2.following :=
      keepsAccount_widthStep head?_of_emojiSelector
    have step_least := step.least
    have step_most := step.most
    simp only [widthFrom, columns_cons, widenings]
    exact ⟨by omega, by push_cast at *; omega⟩

theorem widthFrom_nonneg (s : List Char) : 0 ≤ (widthFrom s).1 :=
  Int.le_trans (owed_nonneg _) (account_widthFrom s).1

theorem displayWidth_eq (s : List Char) : (displayWidth s : Int) = (widthFrom s).1 :=
  Int.toNat_of_nonneg (widthFrom_nonneg s)

/-- A text takes no more columns than its characters by themselves, but for those that widen. -/
theorem displayWidth_le (s : List Char) : displayWidth s ≤ columns s + widenings s := by
  have account := (account_widthFrom s).2
  have room := spare_nonneg (widthFrom s).2.following
  have eq := displayWidth_eq s
  omega

/-! ## A text after another one -/

/-- A text that means nothing to what stands before it. -/
def StandsAlone (s : List Char) : Prop := (widthFrom s).2 = Context.start

instance (s : List Char) : Decidable (StandsAlone s) := inferInstanceAs (Decidable (_ = _))

theorem widthFrom_append {t : List Char} (alone : StandsAlone t) (s : List Char) :
    widthFrom (s ++ t) = ((widthFrom s).1 + (widthFrom t).1, (widthFrom s).2) := by
  induction s with
  | nil => exact Prod.ext (Int.zero_add _).symm alone
  | cons c rest ih =>
    simp only [List.cons_append, widthFrom, ih]
    rw [Int.add_right_comm]

/-- A shown character that no selector makes an emoji takes a column and stands alone. -/
theorem widthFrom_cons_shown {c : Char} (latin : c.toNat ≤ 0xA0) (no_line : c ≠ '\n')
    (no_carriage : c ≠ '\r') (no_emoji : emojiVariationRanges.contains c = false)
    (rest : List Char) : widthFrom (c :: rest) = ((widthFrom rest).1 + 1, Context.start) := by
  have step : ∀ next, widthStep c next = (1, Context.start) := fun next => by
    simp [widthStep, widthBefore, latin, no_line, no_carriage, no_emoji]
  simp only [widthFrom, step]

/-- The widths of two texts add up if the second one means nothing to the first. -/
theorem displayWidth_append {t : List Char} (alone : StandsAlone t) (s : List Char) :
    displayWidth (s ++ t) = displayWidth s + displayWidth t := by
  have joined := displayWidth_eq (s ++ t)
  rw [widthFrom_append alone s] at joined
  have first := displayWidth_eq s
  have second := displayWidth_eq t
  simp only at joined
  omega

/-! ## Spaces -/

theorem widthFrom_space (rest : List Char) :
    widthFrom (' ' :: rest) = ((widthFrom rest).1 + 1, Context.start) :=
  widthFrom_cons_shown (by decide) (by decide) (by decide) (by decide +kernel) rest

theorem standsAlone_spaces (count : Nat) : StandsAlone (List.replicate count ' ') := by
  cases count with
  | zero => rfl
  | succ count =>
    rw [List.replicate_succ, StandsAlone, widthFrom_space]

/-- Spaces in front of a text take a column each, whatever the text starts with. -/
theorem displayWidth_spaces_append (count : Nat) (s : List Char) :
    displayWidth (List.replicate count ' ' ++ s) = count + displayWidth s := by
  induction count with
  | zero => exact (Nat.zero_add _).symm
  | succ count ih =>
    have whole := displayWidth_eq (' ' :: (List.replicate count ' ' ++ s))
    rw [widthFrom_space] at whole
    have rest := displayWidth_eq (List.replicate count ' ' ++ s)
    rw [List.replicate_succ, List.cons_append]
    simp only at whole
    omega

theorem displayWidth_spaces (count : Nat) : displayWidth (List.replicate count ' ') = count := by
  have whole := displayWidth_spaces_append count []
  rwa [List.append_nil] at whole

end CommitQuery.Text
