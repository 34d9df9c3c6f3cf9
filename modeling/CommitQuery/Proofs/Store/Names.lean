-- Bookmarks under any steps: the user saves some, the examples are put behind them, and the
-- list is written to its file and read again. The user's own are what the saves alone would
-- make of an empty list, so that they stay a map from names to bookmarks.
import CommitQuery.Proofs.Store.Bookmark
import CommitQuery.Proofs.Store.Files
import CommitQuery.Store.Examples

namespace CommitQuery.Bookmark

open CommitQuery.Text

/-! ## The user's own -/

/-- The user's own bookmarks of a list. -/
def users (l : List Bookmark) : List Bookmark := l.filter (!·.isBuiltin)

theorem mem_users {l : List Bookmark} {b : Bookmark} :
    b ∈ users l ↔ b ∈ l ∧ b.isBuiltin = false := by
  simp [users]

/-- A name stands for one of the user's own. -/
theorem find?_users (l : List Bookmark) (name : String) :
    (users l).find? (·.isUsers name) = l.find? (·.isUsers name) := by
  rw [users, List.find?_filter]
  congr 1
  funext b
  simp [isUsers]

theorem distinct_users_iff {l : List Bookmark} : Distinct (users l) ↔ Distinct l := by
  unfold Distinct users
  rw [List.pairwise_filter]
  refine ⟨List.Pairwise.imp fun h first second => ?_, List.Pairwise.imp fun h _ _ => h⟩
  exact h (by simp [first]) (by simp [second]) first second

theorem isBuiltin_of_mem_samples {now : Timestamp} {b : Bookmark} (h : b ∈ samples now) :
    b.isBuiltin = true := by
  unfold samples samplesOf at h
  rw [List.mem_append, List.mem_append, List.mem_map, List.mem_map, List.mem_map] at h
  rcases h with (⟨_, -, rfl⟩ | ⟨_, -, rfl⟩) | ⟨_, -, rfl⟩
  all_goals rfl

/-- None of the examples is the user's. -/
theorem users_append_samples (l : List Bookmark) (now : Timestamp) :
    users (l ++ samples now) = users l := by
  have none : users (samples now) = [] :=
    List.filter_eq_nil_iff.mpr fun b hb => by simp [isBuiltin_of_mem_samples hb]
  unfold users at none ⊢
  rw [List.filter_append, none, List.append_nil]

/-- A bookmark of the user is saved among the user's own, past whatever stands between them. -/
theorem users_saved {b : Bookmark} (own : b.isBuiltin = false) (l : List Bookmark) :
    users (saved l b) = saved (users l) b := by
  induction l with
  | nil => simp [saved, upsert, users, own]
  | cons a rest ih =>
    rw [saved_cons]
    cases shipped : a.isBuiltin with
    | true =>
      have other : a.isUsers b.name = false := by simp [isUsers, shipped]
      simpa [users, shipped, other] using ih
    | false =>
      have kept : users (a :: rest) = a :: users rest := by simp [users, shipped]
      rw [kept, saved_cons, ← ih]
      split
      · simp [users, own]
      · simp [users, shipped]

/-- A bookmark that is the only one of its name is the one that its name stands for. -/
theorem Distinct.find?_eq {l : List Bookmark} (h : Distinct l) {b : Bookmark} (hb : b ∈ l)
    (own : b.isBuiltin = false) : l.find? (·.isUsers b.name) = some b := by
  rw [distinct_iff] at h
  induction l with
  | nil => cases hb
  | cons a rest ih =>
    obtain ⟨first, others⟩ := List.pairwise_cons.mp h
    rcases List.mem_cons.mp hb with rfl | hb
    · exact List.find?_cons_of_pos (isUsers_iff.mpr ⟨own, rfl⟩)
    · rw [List.find?_cons_of_neg (by simp [first b hb own])]
      exact ih others hb

/-! ## Saving one -/

/-- A bookmark is saved in the place of the user's only one of its name. -/
def Replaces (b : Bookmark) (l : List Bookmark) : Prop :=
  ∃ front old back, l = front ++ old :: back ∧ old.isBuiltin = false ∧
    old.name.toLower = b.name.toLower ∧
    (∀ a ∈ front ++ back, a.isBuiltin = false → a.name.toLower ≠ b.name.toLower) ∧
    upsert b l = (front ++ b :: back, true)

/-- A bookmark of a name that none of the user's has is saved behind all others. -/
def Appends (b : Bookmark) (l : List Bookmark) : Prop :=
  (∀ a ∈ l, a.isBuiltin = false → a.name.toLower ≠ b.name.toLower) ∧
    upsert b l = (l ++ [b], false)

/-- In a list with one bookmark of the user to a name there is no third way to save one. -/
theorem Distinct.replaces_or_appends {l : List Bookmark} (h : Distinct l) (b : Bookmark) :
    Replaces b l ∨ Appends b l := by
  induction l with
  | nil => exact .inr ⟨List.forall_mem_nil _, rfl⟩
  | cons a rest ih =>
    obtain ⟨first, others⟩ := List.pairwise_cons.mp h
    by_cases same : a.isUsers b.name = true
    · obtain ⟨own, named⟩ := isUsers_iff.mp same
      refine .inl ⟨[], a, rest, rfl, own, named, fun c hc made again => ?_,
        by rw [upsert, if_pos same]; rfl⟩
      exact first c hc own made (named.trans again.symm)
    · have other := isUsers_eq_false_iff.mp (Bool.eq_false_iff.mpr same)
      rcases ih others with ⟨front, old, back, rfl, own, named, alone, saves⟩ | ⟨none, saves⟩
      · refine .inl ⟨a :: front, old, back, rfl, own, named, ?_, ?_⟩
        · exact List.forall_mem_cons.mpr ⟨other, alone⟩
        · rw [upsert, if_neg same, saves]
          rfl
      · refine .inr ⟨List.forall_mem_cons.mpr ⟨other, none⟩, ?_⟩
        rw [upsert, if_neg same, saves]
        rfl

/-! ## Steps -/

/-- A step that a list of bookmarks takes. -/
inductive Step
  | upsert (b : Bookmark)
  | addSamples (now : Timestamp)
  | reload

/-- The list after a step, if the file that was written can be read. -/
def step? (l : List Bookmark) : Step → Option (List Bookmark)
  | .upsert b => some (saved l b)
  | .addSamples now => some (l ++ samples now)
  | .reload => load? (save l)

/-- What some steps make of an empty list. -/
def after? (steps : List Step) : Option (List Bookmark) := steps.foldlM step? []

/-- The bookmark that a step saves. -/
def Step.saved? : Step → Option Bookmark
  | .upsert b => some b
  | _ => none

/-- The bookmarks that some steps save, one after the other. -/
def savedBy (steps : List Step) : List Bookmark := steps.filterMap Step.saved?

theorem savedBy_concat (steps : List Step) (last : Step) :
    savedBy (steps ++ [last]) = savedBy steps ++ last.saved?.toList := by
  rw [savedBy, List.filterMap_append]
  cases last <;> rfl

theorem after?_concat {steps : List Step} {l : List Bookmark} (h : after? steps = some l)
    (last : Step) : after? (steps ++ [last]) = step? l last := by
  rw [after?, List.foldlM_append]
  have start : steps.foldlM step? [] = some l := h
  simp [start]

/-- The user's own bookmarks are those that the saves alone leave, and no file is lost. -/
theorem exists_after? {steps : List Step}
    (own : ∀ b ∈ savedBy steps, b.isBuiltin = false ∧ b.InUtc) :
    ∃ l, after? steps = some l ∧ users l = (savedBy steps).foldl saved [] := by
  induction steps using List.reverseRecOn with
  | nil => exact ⟨[], rfl, rfl⟩
  | append_singleton steps last ih =>
    rw [savedBy_concat] at own ⊢
    have before : ∀ b ∈ savedBy steps, b.isBuiltin = false ∧ b.InUtc :=
      fun b hb => own b (List.mem_append_left _ hb)
    obtain ⟨l, run, kept⟩ := ih before
    rw [after?_concat run, List.foldl_append, ← kept]
    cases last with
    | upsert b => exact ⟨_, rfl, users_saved (own b (by simp [Step.saved?])).1 l⟩
    | addSamples now => exact ⟨_, rfl, users_append_samples l now⟩
    | reload =>
      have times : ∀ b ∈ l, b.isBuiltin = false → b.InUtc := fun b hb made =>
        forall_mem_foldl_saved (fun c hc => (before c hc).2) b (kept ▸ mem_users.mpr ⟨hb, made⟩)
      refine ⟨_, load?_save times, ?_⟩
      exact List.filter_filter.trans (by simp [users, Step.saved?])

/-! ## The law -/

/-- After any steps, however often the examples were put behind and the file was written and
read, a list of bookmarks is there, with one of the user at most to each name in whatever case
of ASCII letters. A name stands for the last bookmark saved under it, and each of the user's own
is the last one saved under its name. One more is saved in the place of the only one of the
user with its name, which is reported, or else at the end; all others stay where they are,
examples of that name among them. -/
theorem names_stand_for_the_last_bookmark_saved (steps : List Step)
    (own : ∀ b ∈ savedBy steps, b.isBuiltin = false ∧ b.InUtc) :
    ∃ l, after? steps = some l ∧ Distinct l ∧
      (∀ name : String, l.find? (fun b => b.isBuiltin = false ∧ b.name.toLower = name.toLower) =
        ((savedBy steps).filter fun b => b.name.toLower = name.toLower).getLast?) ∧
      (∀ b ∈ l, b.isBuiltin = false →
        ((savedBy steps).filter fun a => a.name.toLower = b.name.toLower).getLast? = some b) ∧
      (∀ b, (Replaces b l ∨ Appends b l) ∧ ((upsert b l).2 = true ↔
        ∃ a ∈ l, a.isBuiltin = false ∧ a.name.toLower = b.name.toLower)) ∧
      (∀ now, users (l ++ samples now) = users l) ∧ load? (save l) = some (users l) := by
  obtain ⟨l, run, kept⟩ := exists_after? own
  have distinct : Distinct l := by
    rw [← distinct_users_iff, kept]
    exact distinct_foldl_saved _
  have stands : ∀ name : String, l.find? (·.isUsers name) =
      ((savedBy steps).filter fun b => b.name.toLower = name.toLower).getLast? := by
    intro name
    rw [← find?_users, kept]
    exact find?_foldl_saved (fun b hb => (own b hb).1) name
  refine ⟨l, run, distinct, ?_, ?_, fun b => ?_, users_append_samples l, ?_⟩
  · intro name
    rw [← stands name, funext fun b : Bookmark => isUsers_eq b name]
  · intro b hb made
    rw [← stands, distinct.find?_eq hb made]
  · have ways := distinct.replaces_or_appends b
    refine ⟨ways, ?_⟩
    rcases ways with ⟨front, old, back, rfl, own, named, -, saves⟩ | ⟨none, saves⟩
    · rw [saves]
      exact ⟨fun _ => ⟨old, by simp, own, named⟩, fun _ => rfl⟩
    · simpa [saves] using none
  · refine load?_save fun b hb made => ?_
    exact forall_mem_foldl_saved (fun c hc => (own c hc).2) b (kept ▸ mem_users.mpr ⟨hb, made⟩)

/-- A morning with a fraction of a second. -/
def morning : Timestamp := ⟨⟨2025, 1, 2⟩, 3, 4, 5, 600, 0⟩

/-- A bookmark under the name of an example, saved before the examples come and again, in
other letters, after the file was read. -/
def aroundExamples : List Step :=
  [.upsert (ofUser "Count total commits" "Commits.Count()" morning), .addSamples morning, .reload,
    .addSamples morning, .upsert (ofUser "recent" "Commits.Take(3)" morning),
    .upsert (ofUser "COUNT total Commits" "Commits.Skip(1).Count()" morning)]

/-- The name stands for the second of the two. -/
theorem the_name_of_an_example_stands_for_the_last_one_saved :
    (∀ b ∈ savedBy aroundExamples, b.isBuiltin = false ∧ b.InUtc) ∧
      ∃ l, after? aroundExamples = some l ∧ Distinct l ∧
        (l.find? fun b => b.isBuiltin = false ∧
          b.name.toLower = "count total commits".toLower).map (·.query) =
            some "Commits.Skip(1).Count()" ∧
        ∀ b, Replaces b l ∨ Appends b l := by
  have utc : morning.IsUtc := ⟨rfl, by decide, by decide, by decide, by decide⟩
  have made : ∀ name query, (ofUser name query morning).isBuiltin = false ∧
      (ofUser name query morning).InUtc := fun _ _ => ⟨rfl, utc, nofun⟩
  have own : ∀ b ∈ savedBy aroundExamples, b.isBuiltin = false ∧ b.InUtc :=
    List.forall_mem_cons.mpr ⟨made _ _, List.forall_mem_cons.mpr ⟨made _ _,
      List.forall_mem_singleton.mpr (made _ _)⟩⟩
  obtain ⟨l, run, distinct, stands, -, saves, -⟩ :=
    names_stand_for_the_last_bookmark_saved aroundExamples own
  refine ⟨own, l, run, distinct, ?_, fun b => (saves b).1⟩
  rw [stands]
  simp only [← equalsIgnoringAsciiCase_iff]
  decide +kernel

end CommitQuery.Bookmark
