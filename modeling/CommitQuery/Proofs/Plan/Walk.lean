-- Walks over a list whose steps may fail. A walk that succeeds had a result for
-- every item that it came to, and a walk that fails has the failure of the first
-- item that failed. Walks whose steps may give nothing, and walks that carry a
-- state along, stand at the end.
import Mathlib.Data.List.Forall2

namespace CommitQuery

variable {ε α β : Type}

/-- A sequence of two steps succeeds when both do. -/
theorem bind_eq_ok {x : Except ε α} {f : α → Except ε β} {b : β} :
    (x >>= f) = .ok b ↔ ∃ a, x = .ok a ∧ f a = .ok b := by
  cases x with
  | ok a => simp [bind, Except.bind]
  | error e => simp [bind, Except.bind]

/-- A sequence of two steps fails with the first step, or else with the second. -/
theorem bind_eq_error {x : Except ε α} {f : α → Except ε β} {e : ε} :
    (x >>= f) = .error e ↔ x = .error e ∨ ∃ a, x = .ok a ∧ f a = .error e := by
  cases x with
  | ok a => simp [bind, Except.bind]
  | error e => simp [bind, Except.bind]

/-- A step that only changes the result of another fails with that one. -/
theorem map_eq_error {x : Except ε α} {f : α → β} {e : ε} (h : (do return f (← x)) = .error e) :
    x = .error e := by
  rcases bind_eq_error.mp h with h | ⟨a, -, h⟩
  · exact h
  · cases h

/-- The first item of a list on which a step fails. -/
def FailsFirst (f : α → Except ε β) (items : List α) (e : ε) : Prop :=
  ∃ before a after, items = before ++ a :: after ∧ (∀ b ∈ before, ∃ r, f b = .ok r) ∧
    f a = .error e

theorem FailsFirst.head {f : α → Except ε β} {a : α} {e : ε} (h : f a = .error e)
    (rest : List α) : FailsFirst f (a :: rest) e :=
  ⟨[], a, rest, rfl, by simp, h⟩

theorem FailsFirst.cons {f : α → Except ε β} {a : α} {r : β} {rest : List α} {e : ε}
    (ha : f a = .ok r) (h : FailsFirst f rest e) : FailsFirst f (a :: rest) e := by
  obtain ⟨before, b, after, rfl, hbefore, hb⟩ := h
  refine ⟨a :: before, b, after, rfl, ?_, hb⟩
  intro c hc
  rcases List.mem_cons.mp hc with rfl | hc
  · exact ⟨r, ha⟩
  · exact hbefore c hc

theorem FailsFirst.mem {f : α → Except ε β} {items : List α} {e : ε}
    (h : FailsFirst f items e) : ∃ a ∈ items, f a = .error e := by
  obtain ⟨before, a, after, rfl, -, ha⟩ := h
  exact ⟨a, by simp, ha⟩

/-- A step followed by a change of its result fails first where the step does. -/
theorem FailsFirst.map {γ : Type} {f : α → Except ε β} {items : List α} {e : ε}
    (h : FailsFirst f items e) (g : α → β → γ) :
    FailsFirst (fun a => do return g a (← f a)) items e := by
  obtain ⟨before, a, after, rfl, hbefore, ha⟩ := h
  refine ⟨before, a, after, rfl, ?_, bind_eq_error.mpr (.inl ha)⟩
  intro b hb
  obtain ⟨r, hr⟩ := hbefore b hb
  exact ⟨g b r, bind_eq_ok.mpr ⟨r, hr, rfl⟩⟩

/-- A step with a result for every item fails on none. -/
theorem not_failsFirst {f : α → Except ε β} {items : List α} {e : ε}
    (h : ∀ a ∈ items, ∃ r, f a = .ok r) : ¬ FailsFirst f items e := by
  intro fails
  obtain ⟨a, ha, failed⟩ := fails.mem
  obtain ⟨r, hr⟩ := h a ha
  rw [hr] at failed
  cases failed

/-! ## Keeping the items that pass a test -/

theorem filterAuxM_eq (f : α → Except ε Bool) (items before : List α) :
    items.filterAuxM f before = (do return (← items.filterM f).reverse ++ before) := by
  induction items generalizing before with
  | nil => rfl
  | cons a rest ih =>
    simp only [List.filterM, List.filterAuxM, bind_assoc, pure_bind, List.reverse_reverse]
    congr 1
    funext kept
    rw [ih, ih (bif kept then [a] else [])]
    simp only [bind_assoc, pure_bind]
    cases kept <;>
      simp only [cond_true, cond_false, List.append_assoc, List.append_nil, List.singleton_append]

theorem filterM_cons (f : α → Except ε Bool) (a : α) (rest : List α) :
    (a :: rest).filterM f = (do
      let kept ← f a
      let more ← rest.filterM f
      return if kept then a :: more else more) := by
  simp only [List.filterM, List.filterAuxM, bind_assoc]
  congr 1
  funext kept
  rw [filterAuxM_eq]
  cases kept <;> simp [List.filterM]

/-- What is kept are the items whose test is true, in order, and no test failed. -/
theorem filterM_eq_ok {f : α → Except ε Bool} {items kept : List α}
    (h : items.filterM f = .ok kept) :
    (∀ a ∈ items, ∃ b, f a = .ok b) ∧ kept = items.filter fun a => (f a).toOption == some true := by
  induction items generalizing kept with
  | nil =>
    cases h
    simp
  | cons a rest ih =>
    simp only [filterM_cons, bind_eq_ok] at h
    obtain ⟨b, ha, more, hmore, h⟩ := h
    cases h
    obtain ⟨hall, rfl⟩ := ih hmore
    refine ⟨?_, ?_⟩
    · intro c hc
      rcases List.mem_cons.mp hc with rfl | hc
      · exact ⟨b, ha⟩
      · exact hall c hc
    · rw [List.filter_cons, ha]
      cases b <;> rfl

theorem filterM_eq_error {f : α → Except ε Bool} {items : List α} {e : ε}
    (h : items.filterM f = .error e) : FailsFirst f items e := by
  induction items with
  | nil => cases h
  | cons a rest ih =>
    rw [filterM_cons] at h
    rcases bind_eq_error.mp h with ha | ⟨b, ha, h⟩
    · exact .head ha rest
    · rcases bind_eq_error.mp h with hrest | ⟨more, -, h⟩
      · exact (ih hrest).cons ha
      · cases h

theorem filterM_of_failsFirst {f : α → Except ε Bool} {items : List α} {e : ε}
    (h : FailsFirst f items e) : items.filterM f = .error e := by
  obtain ⟨before, a, after, rfl, hbefore, ha⟩ := h
  induction before with
  | nil =>
    rw [List.nil_append, filterM_cons]
    exact bind_eq_error.mpr (.inl ha)
  | cons b rest ih =>
    obtain ⟨⟨r, hr⟩, hrest⟩ := List.forall_mem_cons.mp hbefore
    rw [List.cons_append, filterM_cons]
    exact bind_eq_error.mpr (.inr ⟨r, hr, bind_eq_error.mpr (.inl (ih hrest))⟩)

theorem filterM_gives {f : α → Except ε Bool} {items : List α}
    (h : ∀ a ∈ items, ∃ b, f a = .ok b) : ∃ kept, items.filterM f = .ok kept := by
  cases hf : items.filterM f with
  | ok kept => exact ⟨kept, rfl⟩
  | error e => exact absurd (filterM_eq_error hf) (not_failsFirst h)

/-! ## Images of all items -/

/-- An item of a list has an image in the list of images. -/
theorem image_of_mem {R : α → β → Prop} {items : List α} {images : List β}
    (h : List.Forall₂ R items images) {a : α} (ha : a ∈ items) : ∃ b ∈ images, R a b := by
  induction h with
  | nil => cases ha
  | @cons c b rest more hc _ ih =>
    rcases List.mem_cons.mp ha with rfl | ha
    · exact ⟨b, by simp, hc⟩
    · obtain ⟨d, hd, image⟩ := ih ha
      exact ⟨d, by simp [hd], image⟩

theorem exists_images {R : α → β → Prop} {items : List α} (h : ∀ a ∈ items, ∃ b, R a b) :
    ∃ images, List.Forall₂ R items images := by
  induction items with
  | nil => exact ⟨[], .nil⟩
  | cons a rest ih =>
    obtain ⟨⟨b, hb⟩, hrest⟩ := List.forall_mem_cons.mp h
    obtain ⟨images, all⟩ := ih hrest
    exact ⟨b :: images, .cons hb all⟩

/-- The images stand in the order of the items. -/
theorem mapM_eq_ok {f : α → Except ε β} {items : List α} {images : List β}
    (h : items.mapM f = .ok images) : List.Forall₂ (fun a b => f a = .ok b) items images := by
  induction items generalizing images with
  | nil =>
    cases h
    exact .nil
  | cons a rest ih =>
    simp only [List.mapM_cons, bind_eq_ok] at h
    obtain ⟨b, ha, more, hmore, h⟩ := h
    cases h
    exact .cons ha (ih hmore)

/-- Every image is the image of an item. -/
theorem mem_of_mapM {f : α → Except ε β} {items : List α} {images : List β}
    (h : items.mapM f = .ok images) {b : β} (hb : b ∈ images) : ∃ a ∈ items, f a = .ok b :=
  image_of_mem (mapM_eq_ok h).flip hb

/-- Every item has an image. -/
theorem image_of_mapM {f : α → Except ε β} {items : List α} {images : List β}
    (h : items.mapM f = .ok images) {a : α} (ha : a ∈ items) : ∃ b, f a = .ok b := by
  obtain ⟨b, -, image⟩ := image_of_mem (mapM_eq_ok h) ha
  exact ⟨b, image⟩

theorem mapM_eq_error {f : α → Except ε β} {items : List α} {e : ε}
    (h : items.mapM f = .error e) : FailsFirst f items e := by
  induction items with
  | nil => cases h
  | cons a rest ih =>
    rw [List.mapM_cons] at h
    rcases bind_eq_error.mp h with ha | ⟨b, ha, h⟩
    · exact .head ha rest
    · rcases bind_eq_error.mp h with hrest | ⟨more, -, h⟩
      · exact (ih hrest).cons ha
      · cases h

theorem mapM_of_failsFirst {f : α → Except ε β} {items : List α} {e : ε}
    (h : FailsFirst f items e) : items.mapM f = .error e := by
  obtain ⟨before, a, after, rfl, hbefore, ha⟩ := h
  induction before with
  | nil =>
    rw [List.nil_append, List.mapM_cons]
    exact bind_eq_error.mpr (.inl ha)
  | cons b rest ih =>
    obtain ⟨⟨r, hr⟩, hrest⟩ := List.forall_mem_cons.mp hbefore
    rw [List.cons_append, List.mapM_cons]
    exact bind_eq_error.mpr (.inr ⟨r, hr, bind_eq_error.mpr (.inl (ih hrest))⟩)

theorem mapM_of_map {f : α → Except ε β} {items : List α} {images : List β}
    (h : items.map f = images.map .ok) : items.mapM f = .ok images := by
  induction items generalizing images with
  | nil =>
    rw [List.map_eq_nil_iff.mp h.symm]
    rfl
  | cons a rest ih =>
    cases images with
    | nil => cases h
    | cons b more =>
      obtain ⟨ha, hrest⟩ := List.cons_eq_cons.mp h
      rw [List.mapM_cons]
      exact bind_eq_ok.mpr ⟨b, ha, bind_eq_ok.mpr ⟨more, ih hrest, rfl⟩⟩

theorem mapM_gives {f : α → Except ε β} {items : List α}
    (h : ∀ a ∈ items, ∃ b, f a = .ok b) : ∃ images, items.mapM f = .ok images := by
  cases hf : items.mapM f with
  | ok images => exact ⟨images, rfl⟩
  | error e => exact absurd (mapM_eq_error hf) (not_failsFirst h)

/-! ## The first item that passes a test -/

/-- All items before the found one fail the test, and no later one is looked at. -/
theorem findM?_eq_some {f : α → Except ε Bool} {items : List α} {a : α}
    (h : items.findM? f = .ok (some a)) :
    ∃ before after, items = before ++ a :: after ∧ (∀ b ∈ before, f b = .ok false) ∧
      f a = .ok true := by
  induction items with
  | nil => cases h
  | cons c rest ih =>
    rw [List.findM?] at h
    obtain ⟨found, hc, h⟩ := bind_eq_ok.mp h
    cases found with
    | true =>
      cases h
      exact ⟨[], rest, rfl, by simp, hc⟩
    | false =>
      obtain ⟨before, after, rfl, hbefore, ha⟩ := ih h
      refine ⟨c :: before, after, rfl, ?_, ha⟩
      intro b hb
      rcases List.mem_cons.mp hb with rfl | hb
      · exact hc
      · exact hbefore b hb

theorem findM?_eq_none {f : α → Except ε Bool} {items : List α}
    (h : items.findM? f = .ok none) : ∀ a ∈ items, f a = .ok false := by
  induction items with
  | nil => simp
  | cons c rest ih =>
    rw [List.findM?] at h
    obtain ⟨found, hc, h⟩ := bind_eq_ok.mp h
    cases found with
    | true => cases h
    | false =>
      intro a ha
      rcases List.mem_cons.mp ha with rfl | ha
      · exact hc
      · exact ih h a ha

theorem findM?_eq_error {f : α → Except ε Bool} {items : List α} {e : ε}
    (h : items.findM? f = .error e) : FailsFirst f items e := by
  induction items with
  | nil => cases h
  | cons c rest ih =>
    rw [List.findM?] at h
    rcases bind_eq_error.mp h with hc | ⟨found, hc, h⟩
    · exact .head hc rest
    · cases found with
      | true => cases h
      | false => exact (ih h).cons hc

/-- Items that fail the test are passed over. -/
theorem findM?_append {f : α → Except ε Bool} {before : List α}
    (h : ∀ b ∈ before, f b = .ok false) (after : List α) :
    (before ++ after).findM? f = after.findM? f := by
  induction before with
  | nil => rfl
  | cons b rest ih =>
    obtain ⟨hb, hrest⟩ := List.forall_mem_cons.mp h
    rw [List.cons_append, List.findM?, hb]
    exact ih hrest

theorem findM?_gives {f : α → Except ε Bool} {items : List α}
    (h : ∀ a ∈ items, ∃ b, f a = .ok b) : ∃ found, items.findM? f = .ok found := by
  cases hf : items.findM? f with
  | ok found => exact ⟨found, rfl⟩
  | error e => exact absurd (findM?_eq_error hf) (not_failsFirst h)

/-! ## Steps that may give nothing -/

theorem mapM_eq_some {f : α → Option β} {items : List α} {images : List β} :
    items.mapM f = some images ↔ List.Forall₂ (fun a b => f a = some b) items images := by
  induction items generalizing images with
  | nil => simp [eq_comm]
  | cons a rest ih =>
    simp only [List.mapM_cons, Option.bind_eq_bind, Option.bind_eq_some_iff, ih,
      List.forall₂_cons_left_iff, Option.pure_def, Option.some.injEq]
    constructor
    · rintro ⟨b, hb, more, hmore, rfl⟩
      exact ⟨b, more, hb, hmore, rfl⟩
    · rintro ⟨b, more, hb, hmore, rfl⟩
      exact ⟨b, hb, more, hmore, rfl⟩

/-! ## Carrying a state along -/

theorem foldlM_cons_eq_some {f : β → α → Option β} {a : α} {items : List α} {start stop : β} :
    (a :: items).foldlM f start = some stop ↔
      ∃ next, f start a = some next ∧ items.foldlM f next = some stop := by
  rw [List.foldlM_cons, Option.bind_eq_bind, Option.bind_eq_some_iff]

theorem foldlM_append_eq_some {f : β → α → Option β} {front back : List α} {start stop : β} :
    (front ++ back).foldlM f start = some stop ↔
      ∃ next, front.foldlM f start = some next ∧ back.foldlM f next = some stop := by
  rw [List.foldlM_append, Option.bind_eq_bind, Option.bind_eq_some_iff]

end CommitQuery
