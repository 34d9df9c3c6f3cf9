-- Sorting loses no item and makes up none, whatever the relation is. Where the relation
-- ranks the items, both ways of sorting give the one stable order: ascending, with tied
-- items as they stood.
import Mathlib.Data.List.TakeWhile
import CommitQuery.Value.Sort

namespace CommitQuery.Sort

variable {α : Type} (precedes : α → α → Bool)

theorem settle_perm (item : α) (settled : List α) :
    (settle precedes item settled).Perm (item :: settled) := by
  induction settled with
  | nil => exact .refl _
  | cons last before ih =>
    unfold settle
    split
    · exact (ih.cons last).trans (.swap item last before)
    · exact .refl _

theorem foldl_settle_perm (items settled : List α) :
    (items.foldl (fun settled item => settle precedes item settled) settled).Perm
      (items ++ settled) := by
  induction items generalizing settled with
  | nil => exact .refl _
  | cons item rest ih =>
    have h := (settle_perm precedes item settled).append_left rest
    exact ((ih _).trans h).trans List.perm_middle

theorem byInsertion_perm (items : List α) : (byInsertion precedes items).Perm items := by
  have h := foldl_settle_perm precedes items []
  rw [List.append_nil] at h
  exact (List.reverse_perm _).trans h

/-- The sorted items are the items in another order. -/
theorem sorted_perm (items : List α) : (sorted precedes items).Perm items := by
  unfold sorted
  split
  · exact byInsertion_perm precedes items
  · exact List.mergeSort_perm items _

/-! ## Ranks -/

/-- A relation that ranks the items of some kind: no two of them precede each other, and
where `a` may stand before `b` and `b` before `c`, so may `a` before `c`. -/
structure Ranks (P : α → Prop) : Prop where
  asymm : ∀ a b, P a → P b → precedes a b = true → precedes b a = false
  trans : ∀ a b c, P a → P b → P c → precedes b a = false → precedes c b = false →
    precedes c a = false

/-- Whether neither of two items has to precede the other. -/
def tied (a b : α) : Bool := !precedes a b && !precedes b a

/-- The stable order of items: all of them, none behind one that it has to precede, and
those that are tied with an item as they stood. -/
structure Stable (P : α → Prop) (items result : List α) : Prop where
  perm : result.Perm items
  ordered : result.Pairwise fun a b => precedes b a = false
  ties : ∀ a, P a → result.filter (tied precedes a) = items.filter (tied precedes a)

variable {precedes} {P : α → Prop}

theorem tied_iff {a b : α} :
    tied precedes a b = true ↔ precedes a b = false ∧ precedes b a = false := by
  simp [tied]

theorem Ranks.irrefl (rank : Ranks precedes P) {a : α} (ha : P a) : precedes a a = false := by
  by_contra h
  have h : precedes a a = true := by simpa using h
  rw [rank.asymm a a ha ha h] at h
  cases h

theorem Ranks.tied_self (rank : Ranks precedes P) {a : α} (ha : P a) :
    tied precedes a a = true :=
  tied_iff.mpr ⟨rank.irrefl ha, rank.irrefl ha⟩

/-- Two items that are tied with a third are tied with each other. -/
theorem Ranks.of_tied (rank : Ranks precedes P) {a b c : α} (ha : P a) (hb : P b) (hc : P c)
    (hab : tied precedes a b = true) (hac : tied precedes a c = true) :
    precedes b c = false :=
  rank.trans c a b hc ha hb (tied_iff.mp hac).1 (tied_iff.mp hab).2

/-! ## There is one stable order -/

theorem eq_of_ordered (rank : Ranks precedes P) {xs ys : List α} (hP : ∀ a ∈ xs, P a)
    (perm : xs.Perm ys) (hx : xs.Pairwise fun a b => precedes b a = false)
    (hy : ys.Pairwise fun a b => precedes b a = false)
    (ties : ∀ a, P a → xs.filter (tied precedes a) = ys.filter (tied precedes a)) : xs = ys := by
  induction xs generalizing ys with
  | nil => exact perm.nil_eq
  | cons a rest ih =>
    cases ys with
    | nil => exact absurd perm.symm (by simp)
    | cons b more =>
      obtain ⟨ha, hrest⟩ := List.forall_mem_cons.mp hP
      obtain ⟨least, restOrdered⟩ := List.pairwise_cons.mp hx
      obtain ⟨least', moreOrdered⟩ := List.pairwise_cons.mp hy
      have hb : P b := hP b (perm.symm.subset (by simp))
      have hba : precedes b a = false := by
        rcases List.mem_cons.mp (perm.symm.subset (List.mem_cons_self : b ∈ b :: more)) with rfl | h
        · exact rank.irrefl hb
        · exact least b h
      have hab : precedes a b = false := by
        rcases List.mem_cons.mp (perm.subset (List.mem_cons_self : a ∈ a :: rest)) with rfl | h
        · exact rank.irrefl ha
        · exact least' a h
      -- Both heads are the first of the items that are tied with them.
      have heads := ties a ha
      rw [List.filter_cons_of_pos (rank.tied_self ha),
        List.filter_cons_of_pos (tied_iff.mpr ⟨hab, hba⟩)] at heads
      obtain ⟨rfl, -⟩ := List.cons_eq_cons.mp heads
      refine congrArg (a :: ·) (ih hrest perm.cons_inv restOrdered moreOrdered fun c hc => ?_)
      have same := ties c hc
      rw [List.filter_cons, List.filter_cons] at same
      split at same
      · exact (List.cons_eq_cons.mp same).2
      · exact same

theorem Stable.unique (rank : Ranks precedes P) {items xs ys : List α}
    (hP : ∀ a ∈ items, P a) (hx : Stable precedes P items xs) (hy : Stable precedes P items ys) :
    xs = ys :=
  eq_of_ordered rank (fun a ha => hP a (hx.perm.subset ha)) (hx.perm.trans hy.perm.symm)
    hx.ordered hy.ordered fun a ha => (hx.ties a ha).trans (hy.ties a ha).symm

/-- Items in order are their own stable order. -/
theorem Stable.self {items : List α} (h : items.Pairwise fun a b => precedes b a = false) :
    Stable precedes P items items :=
  ⟨.refl _, h, fun _ _ => rfl⟩

/-! ## By insertion -/

theorem settle_eq (item : α) (settled : List α) :
    settle precedes item settled =
      settled.takeWhile (precedes item) ++ item :: settled.dropWhile (precedes item) := by
  induction settled with
  | nil => rfl
  | cons last before ih =>
    rw [settle, List.takeWhile_cons, List.dropWhile_cons]
    split
    · rw [ih]
      rfl
    · rfl

/-- An item has to precede none of those that it is settled behind. -/
theorem not_precedes_of_mem_dropWhile (rank : Ranks precedes P) {item : α} (hi : P item)
    {settled : List α} (hP : ∀ a ∈ settled, P a)
    (h : settled.Pairwise fun a b => precedes a b = false) :
    ∀ a ∈ settled.dropWhile (precedes item), precedes item a = false := by
  induction settled with
  | nil => simp
  | cons last before ih =>
    obtain ⟨hl, hP⟩ := List.forall_mem_cons.mp hP
    obtain ⟨below, h⟩ := List.pairwise_cons.mp h
    rw [List.dropWhile_cons]
    split
    · exact ih hP h
    · rename_i stop
      have behind : precedes item last = false := by simpa using stop
      intro a ha
      rcases List.mem_cons.mp ha with rfl | ha
      · exact behind
      · exact rank.trans a last item (hP a ha) hl hi (below a ha) behind

/-- One more item, settled among those before it. -/
theorem stable_settle (rank : Ranks precedes P) {item : α} (hi : P item)
    {before settled : List α} (hP : ∀ a ∈ before, P a)
    (h : Stable precedes P before settled.reverse) :
    Stable precedes P (before ++ [item]) (settle precedes item settled).reverse := by
  have hperm : settled.Perm before := (List.reverse_perm settled).symm.trans h.perm
  have hP : ∀ a ∈ settled, P a := fun a ha => hP a (hperm.subset ha)
  have held : settled.Pairwise fun a b => precedes a b = false := List.pairwise_reverse.mp h.ordered
  have parts := List.takeWhile_append_dropWhile (p := precedes item) (l := settled)
  have ahead : ∀ a ∈ settled.takeWhile (precedes item), precedes item a = true :=
    fun a ha => List.mem_takeWhile_imp ha
  have behind := not_precedes_of_mem_dropWhile rank hi hP held
  refine ⟨?_, ?_, ?_⟩
  · refine (List.reverse_perm _).trans ((settle_perm precedes item settled).trans ?_)
    exact (hperm.cons item).trans (List.perm_append_singleton item before).symm
  · rw [List.pairwise_reverse, settle_eq]
    rw [← parts, List.pairwise_append] at held
    obtain ⟨front, back, across⟩ := held
    refine List.pairwise_append.mpr ⟨front, List.pairwise_cons.mpr ⟨behind, back⟩, ?_⟩
    intro a ha b hb
    rcases List.mem_cons.mp hb with rfl | hb
    · exact rank.asymm b a hi (hP a ((List.takeWhile_sublist _).subset ha)) (ahead a ha)
    · exact across a ha b hb
  · intro c hc
    have whole : settled.filter (tied precedes c) =
        (settled.takeWhile (precedes item)).filter (tied precedes c) ++
          (settled.dropWhile (precedes item)).filter (tied precedes c) := by
      rw [← List.filter_append, parts]
    rw [List.filter_append, ← h.ties c hc, settle_eq, List.filter_reverse, List.filter_reverse,
      ← List.reverse_inj, List.reverse_append, List.reverse_reverse, List.reverse_reverse,
      List.filter_append, whole]
    by_cases same : tied precedes c item = true
    · -- Nothing that the item has to precede is tied with it.
      have none : (settled.takeWhile (precedes item)).filter (tied precedes c) = [] := by
        refine List.filter_eq_nil_iff.mpr fun a ha ta => ?_
        have Pa := hP a ((List.takeWhile_sublist _).subset ha)
        have free := rank.of_tied hc hi Pa same ta
        rw [ahead a ha] at free
        cases free
      rw [none, List.filter_cons_of_pos same]
      simp [same]
    · rw [List.filter_cons_of_neg same]
      simp [same]

theorem stable_foldl_settle (rank : Ranks precedes P) {before settled : List α} (items : List α)
    (hP : ∀ a ∈ before ++ items, P a) (h : Stable precedes P before settled.reverse) :
    Stable precedes P (before ++ items)
      (items.foldl (fun settled item => settle precedes item settled) settled).reverse := by
  induction items generalizing before settled with
  | nil =>
    rw [List.append_nil]
    exact h
  | cons item rest ih =>
    have hi : P item := hP item (by simp)
    have step := stable_settle rank hi (fun a ha => hP a (by simp [ha])) h
    have all := ih (by simpa using hP) step
    simpa using all

/-! ## By merging -/

theorem stable_mergeSort (rank : Ranks precedes P) {items : List α} (hP : ∀ a ∈ items, P a) :
    Stable precedes P items (items.mergeSort fun a b => !precedes b a) := by
  -- The library sorts by an order of a whole type: here the type of the ranked items.
  let le : {a // P a} → {a // P a} → Bool := fun a b => !precedes b.1 a.1
  have le_trans : ∀ a b c, le a b = true → le b c = true → le a c = true := by
    intro a b c hab hbc
    simp only [le, Bool.not_eq_true'] at *
    exact rank.trans a b c a.2 b.2 c.2 hab hbc
  have le_total : ∀ a b, (le a b || le b a) = true := by
    intro a b
    cases h : precedes b.1 a.1 with
    | false => simp [le, h]
    | true => simp [le, h, rank.asymm b a b.2 a.2 h]
  let ranked := items.attachWith P hP
  have same : ranked.map (·.1) = items := List.attachWith_map_subtype_val hP
  have sorted : (ranked.mergeSort le).map (·.1) = items.mergeSort fun a b => !precedes b a := by
    rw [List.map_mergeSort (s := fun a b => !precedes b a) fun _ _ _ _ => rfl, same]
  refine ⟨List.mergeSort_perm items _, ?_, ?_⟩
  · rw [← sorted, List.pairwise_map]
    refine (List.pairwise_mergeSort le_trans le_total ranked).imp fun h => ?_
    simpa [le] using h
  · intro c hc
    -- The items tied with `c` are in order already, so sorting keeps them as they stand.
    let among := ranked.filter fun a => tied precedes c a.1
    have inOrder : among.Pairwise fun a b => le a b = true := by
      refine List.pairwise_of_forall_mem_list fun a ha b hb => ?_
      have hac := (List.mem_filter.mp ha).2
      have hbc := (List.mem_filter.mp hb).2
      simp [le, rank.of_tied hc b.2 a.2 hbc hac]
    have kept := (List.sublist_mergeSort le_trans le_total inOrder List.filter_sublist).map (·.1)
    rw [sorted] at kept
    have tiedItems : among.map (·.1) = items.filter (tied precedes c) := by
      rw [← same, List.filter_map]
      rfl
    rw [tiedItems] at kept
    have kept := kept.filter (tied precedes c)
    rw [List.filter_filter] at kept
    simp only [Bool.and_self] at kept
    have perm := List.mergeSort_perm items fun a b => !precedes b a
    exact (kept.eq_of_length (perm.filter (tied precedes c)).length_eq.symm).symm

/-- Both ways of sorting give the stable order of ranked items. -/
theorem stable_sorted (rank : Ranks precedes P) {items : List α} (hP : ∀ a ∈ items, P a) :
    Stable precedes P items (sorted precedes items) := by
  unfold sorted
  split
  · have none : Stable precedes P [] ([] : List α).reverse := .self .nil
    exact stable_foldl_settle rank items hP none
  · exact stable_mergeSort rank hP

/-! ## Sorting again, and the other way round -/

theorem sorted_sorted (rank : Ranks precedes P) {items : List α} (hP : ∀ a ∈ items, P a) :
    sorted precedes (sorted precedes items) = sorted precedes items := by
  have once := stable_sorted rank hP
  have hP : ∀ a ∈ sorted precedes items, P a := fun a ha => hP a (once.perm.subset ha)
  exact (stable_sorted rank hP).unique rank hP (.self once.ordered)

theorem Ranks.flip (rank : Ranks precedes P) : Ranks (fun a b => precedes b a) P :=
  ⟨fun a b ha hb h => rank.asymm b a hb ha h,
    fun a b c ha hb hc hab hbc => rank.trans c b a hc hb ha hbc hab⟩

/-- The stable order of a reversed list, reversed, is that of the list by the relation the
other way round. -/
theorem Stable.reverse {items result : List α} (h : Stable precedes P items.reverse result) :
    Stable (fun a b => precedes b a) P items result.reverse := by
  refine ⟨?_, List.pairwise_reverse.mpr h.ordered, fun a ha => ?_⟩
  · exact (List.reverse_perm result).trans (h.perm.trans (List.reverse_perm items))
  · have same : tied (fun a b => precedes b a) a = tied precedes a :=
      funext fun b => Bool.and_comm _ _
    rw [same, List.filter_reverse, h.ties a ha, List.filter_reverse, List.reverse_reverse]

theorem sorted_flip (rank : Ranks precedes P) {items : List α} (hP : ∀ a ∈ items, P a) :
    sorted (fun a b => precedes b a) items = (sorted precedes items.reverse).reverse := by
  have back := (stable_sorted rank fun a ha => hP a (List.mem_reverse.mp ha)).reverse
  exact (stable_sorted rank.flip hP).unique rank.flip hP back

/-! ## Items in the order of something else -/

section Map

variable {β : Type} (precedes) (g : β → α)

theorem settle_map (item : β) (settled : List β) :
    settle precedes (g item) (settled.map g) =
      (settle (fun a b => precedes (g a) (g b)) item settled).map g := by
  induction settled with
  | nil => rfl
  | cons last before ih =>
    simp only [List.map_cons, settle]
    split
    · rw [ih, List.map_cons]
    · rfl

theorem foldl_settle_map (items settled : List β) :
    (items.map g).foldl (fun settled item => settle precedes item settled) (settled.map g) =
      (items.foldl (fun settled item => settle (fun a b => precedes (g a) (g b)) item settled)
        settled).map g := by
  induction items generalizing settled with
  | nil => rfl
  | cons item rest ih =>
    rw [List.map_cons, List.foldl_cons, List.foldl_cons, settle_map, ih]

/-- Images are sorted as the items are by their images. -/
theorem sorted_map (items : List β) :
    sorted precedes (items.map g) = (sorted (fun a b => precedes (g a) (g b)) items).map g := by
  unfold sorted
  rw [List.length_map]
  split
  · have same := foldl_settle_map precedes g items []
    rw [byInsertion, byInsertion, List.map_reverse, ← same]
    rfl
  · exact (List.map_mergeSort (f := g) (s := fun a b => !precedes b a) fun _ _ _ _ => rfl).symm

end Map

end CommitQuery.Sort
