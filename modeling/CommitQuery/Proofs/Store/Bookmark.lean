-- The laws of bookmarks: those of the user are a map from names to queries. Names that
-- differ in the case of ASCII letters only are one name, and the last query saved under a
-- name is the one that it stands for.
import Mathlib.Data.List.Induction
import CommitQuery.Proofs.Text.Class
import CommitQuery.Store.Bookmark

namespace CommitQuery.Bookmark

open CommitQuery.Text

/-! ## Names -/

/-- A bookmark is the user's own of a name if both are the same in small ASCII letters. -/
theorem isUsers_eq (b : Bookmark) (name : String) :
    b.isUsers name = decide (b.isBuiltin = false ∧ b.name.toLower = name.toLower) := by
  rw [Bool.eq_iff_iff, isUsers, Bool.and_eq_true, equalsIgnoringAsciiCase_iff, decide_eq_true_iff,
    Bool.not_eq_true']

theorem isUsers_iff {b : Bookmark} {name : String} :
    b.isUsers name = true ↔ b.isBuiltin = false ∧ b.name.toLower = name.toLower := by
  rw [isUsers_eq, decide_eq_true_iff]

theorem isUsers_eq_false_iff {b : Bookmark} {name : String} :
    b.isUsers name = false ↔ (b.isBuiltin = false → b.name.toLower ≠ name.toLower) := by
  rw [isUsers_eq, decide_eq_false_iff_not, not_and]

theorem isUsers_congr {b : Bookmark} {name other : String} (same : name.toLower = other.toLower) :
    b.isUsers name = b.isUsers other := by
  rw [isUsers_eq, isUsers_eq, same]

/-- No two bookmarks of the user have one name, in whatever case of ASCII letters. -/
def Distinct (l : List Bookmark) : Prop :=
  l.Pairwise fun a b =>
    a.isBuiltin = false → b.isBuiltin = false → a.name.toLower ≠ b.name.toLower

theorem distinct_iff {l : List Bookmark} :
    Distinct l ↔ l.Pairwise fun a b => b.isBuiltin = false → a.isUsers b.name = false := by
  unfold Distinct
  apply Iff.of_eq
  congr
  funext a b
  rw [isUsers_eq_false_iff]
  exact propext imp.swap

/-! ## Saving one -/

/-- The list with a bookmark saved to it. -/
def saved (l : List Bookmark) (b : Bookmark) : List Bookmark := (upsert b l).1

theorem saved_cons (a : Bookmark) (rest : List Bookmark) (b : Bookmark) :
    saved (a :: rest) b = if a.isUsers b.name then b :: rest else a :: saved rest b := by
  unfold saved
  rw [upsert]
  split
  · rfl
  · rfl

theorem mem_saved {l : List Bookmark} {b c : Bookmark} (h : c ∈ saved l b) : c = b ∨ c ∈ l := by
  induction l with
  | nil => exact .inl (List.mem_singleton.mp h)
  | cons a rest ih =>
    rw [saved_cons] at h
    split at h
    · rcases List.mem_cons.mp h with same | h
      · exact .inl same
      · exact .inr (List.mem_cons_of_mem a h)
    · rcases List.mem_cons.mp h with rfl | h
      · exact .inr List.mem_cons_self
      · rcases ih h with same | h
        · exact .inl same
        · exact .inr (List.mem_cons_of_mem a h)

/-- After a bookmark was saved its name stands for it, and every other name for what it
stood for before. -/
theorem find?_saved {b : Bookmark} (own : b.isBuiltin = false) (l : List Bookmark)
    (name : String) :
    (saved l b).find? (·.isUsers name) =
      if b.isUsers name then some b else l.find? (·.isUsers name) := by
  induction l with
  | nil =>
    by_cases h : b.isUsers name = true
    · simp [saved, upsert, h]
    · simp [saved, upsert, h]
  | cons a rest ih =>
    rw [saved_cons]
    by_cases replaced : a.isUsers b.name = true
    · rw [if_pos replaced]
      by_cases h : b.isUsers name = true
      · simp [h]
      · have other : ¬ a.isUsers name = true := by
          intro ha
          have names := (isUsers_iff.mp replaced).2.symm.trans (isUsers_iff.mp ha).2
          exact h (isUsers_iff.mpr ⟨own, names⟩)
        simp [h, other]
    · rw [if_neg replaced]
      by_cases ha : a.isUsers name = true
      · have other : ¬ b.isUsers name = true := by
          intro h
          rw [isUsers_congr (isUsers_iff.mp h).2] at replaced
          exact replaced ha
        simp [ha, other]
      · simp [ha, ih]

theorem distinct_saved {b : Bookmark} {l : List Bookmark} (h : Distinct l) :
    Distinct (saved l b) := by
  rw [distinct_iff] at h ⊢
  induction l with
  | nil => exact List.pairwise_singleton _ b
  | cons a rest ih =>
    obtain ⟨ha, hrest⟩ := List.pairwise_cons.mp h
    rw [saved_cons]
    by_cases replaced : a.isUsers b.name = true
    · rw [if_pos replaced]
      refine List.pairwise_cons.mpr ⟨?_, hrest⟩
      intro c hc own
      by_cases same : b.isUsers c.name = true
      · rw [isUsers_congr (isUsers_iff.mp same).2, ha c hc own] at replaced
        cases replaced
      · exact Bool.eq_false_iff.mpr same
    · rw [if_neg replaced]
      refine List.pairwise_cons.mpr ⟨?_, ih hrest⟩
      intro c hc own
      rcases mem_saved hc with rfl | hc
      · exact Bool.eq_false_iff.mpr replaced
      · exact ha c hc own

/-! ## Saving one after the other -/

/-- A name stands for the last bookmark that was saved under it. -/
theorem find?_foldl_saved {added : List Bookmark} (own : ∀ b ∈ added, b.isBuiltin = false)
    (name : String) :
    (added.foldl saved []).find? (·.isUsers name) =
      (added.filter fun b => b.name.toLower = name.toLower).getLast? := by
  induction added using List.reverseRecOn with
  | nil => rfl
  | append_singleton added b ih =>
    have before := ih fun c hc => own c (List.mem_append_left _ hc)
    have made : b.isBuiltin = false := own b (by simp)
    rw [List.foldl_append, List.foldl_cons, List.foldl_nil, find?_saved made, before,
      List.filter_append, isUsers_eq]
    by_cases h : b.name.toLower = name.toLower
    · simp [h, made]
    · simp [h]

theorem distinct_foldl_saved (added : List Bookmark) : Distinct (added.foldl saved []) := by
  induction added using List.reverseRecOn with
  | nil => exact .nil
  | append_singleton added b ih =>
    rw [List.foldl_append, List.foldl_cons, List.foldl_nil]
    exact distinct_saved ih

theorem forall_mem_foldl_saved {P : Bookmark → Prop} {added : List Bookmark}
    (h : ∀ b ∈ added, P b) : ∀ b ∈ added.foldl saved [], P b := by
  induction added using List.reverseRecOn with
  | nil => simp
  | append_singleton added b ih =>
    rw [List.foldl_append, List.foldl_cons, List.foldl_nil]
    intro c hc
    rcases mem_saved hc with rfl | hc
    · exact h c (by simp)
    · exact ih (fun d hd => h d (List.mem_append_left _ hd)) c hc

/-! ## Times aside -/

/-- What a bookmark is called and what it stands for. -/
def told (b : Bookmark) : String × String × Bool := (b.name, b.query, b.isBuiltin)

theorem isUsers_told {a b : Bookmark} (tell : told a = told b) (name : String) :
    a.isUsers name = b.isUsers name := by
  obtain ⟨names, queries, builtin⟩ : a.name = b.name ∧ a.query = b.query ∧
      a.isBuiltin = b.isBuiltin := by simpa [told] using tell
  unfold isUsers
  rw [names, builtin]

/-- Which bookmark is replaced does not depend on times. -/
theorem told_saved {l others : List Bookmark} (same : l.map told = others.map told)
    {a b : Bookmark} (tell : told a = told b) :
    (saved l a).map told = (saved others b).map told := by
  induction l generalizing others with
  | nil =>
    rw [List.map_nil, eq_comm, List.map_eq_nil_iff] at same
    subst same
    simp [saved, upsert, tell]
  | cons c rest ih =>
    obtain ⟨d, more, rfl, first, rest⟩ := List.map_eq_cons_iff.mp same.symm
    have names : a.name = b.name := congrArg Prod.fst tell
    rw [saved_cons, saved_cons, names, isUsers_told first.symm]
    split
    · simp [tell, rest]
    · simp [first, ih rest.symm]

theorem told_foldl_saved {added more : List Bookmark} (tell : added.map told = more.map told)
    {l others : List Bookmark} (same : l.map told = others.map told) :
    (added.foldl saved l).map told = (more.foldl saved others).map told := by
  induction added generalizing l others more with
  | nil =>
    rw [List.map_nil, eq_comm, List.map_eq_nil_iff] at tell
    rw [tell]
    exact same
  | cons b rest ih =>
    obtain ⟨a, more, rfl, first, rest⟩ := List.map_eq_cons_iff.mp tell.symm
    exact ih rest.symm (told_saved same first.symm)

end CommitQuery.Bookmark
