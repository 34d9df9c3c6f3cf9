-- Sorting a sequence is the stable sort. The key of an item is what the lambda of the
-- operator comes to for it, and the keys of one operator are ranked by the order of values.
import CommitQuery.Proofs.Plan.Parts
import CommitQuery.Proofs.Value.Order
import CommitQuery.Proofs.Value.Sort

namespace CommitQuery.Plan

open Query
open Run (Gives gives_pure)

variable {κ ρ : Type}

/-! ## Keys -/

section Keys

variable {α : Type} {key : α → Value κ ρ}

theorem isLT_eq_false {k : Family} {a b : Value κ ρ} (ha : a.Of k) (hb : b.Of k) :
    (b.sortOrder a).isLT = false ↔ (a.sortOrder b).isLE = true := by
  rw [Value.sortOrder_swap hb ha]
  cases a.sortOrder b <;> decide

/-- Keys of one family rank the items that they are the keys of. -/
theorem ranks_keyPrecedes (key : α → Value κ ρ) (k : Family) (descending : Bool) :
    Sort.Ranks (fun a b => keyPrecedes descending (key a) (key b)) fun a => (key a).Of k := by
  have ascending : Sort.Ranks (fun a b => keyPrecedes false (key a) (key b))
      fun a => (key a).Of k := by
    refine ⟨fun a b ha hb h => ?_, fun a b c ha hb hc hab hbc => ?_⟩
    · have before : ((key a).sortOrder (key b)).isLT = true := h
      refine (isLT_eq_false ha hb).mpr ?_
      cases order : (key a).sortOrder (key b) with
      | lt => rfl
      | eq => rfl
      | gt =>
        rw [order] at before
        cases before
    · have hab := (isLT_eq_false ha hb).mp hab
      have hbc := (isLT_eq_false hb hc).mp hbc
      exact (isLT_eq_false ha hc).mpr (Value.sortOrder_trans ha hb hc hab hbc)
  cases descending with
  | false => exact ascending
  | true => exact ascending.flip

/-- Items sorted with their keys are the items sorted by their keys. -/
theorem sortByKeys_map (key : Value κ ρ → Value κ ρ) (descending : Bool)
    (items : List (Value κ ρ)) :
    sortByKeys descending (items.map fun a => (key a, a)) =
      Sort.sorted (fun a b => keyPrecedes descending (key a) (key b)) items := by
  rw [sortByKeys, Sort.sorted_map, List.map_map]
  exact List.map_id _

end Keys

/-! ## Runs -/

variable {S : Schema κ ρ} {stack items : List (Value κ ρ)} {source body : Plan κ ρ}
  {b : Binder κ} {f : Value κ ρ → Except RuntimeError (Value κ ρ)}

theorem outcome_of_gives {p : Plan κ ρ} {result : Except RuntimeError (Value κ ρ)}
    (h : Gives (evaluate S p) stack result) : outcome S stack p = result :=
  congrArg Prod.fst h

/-- A sort runs the keys of all items, and then it orders the items by them. -/
theorem gives_sort {element : ValueType κ} {origin : Option Nat} (descending : Bool)
    (hs : Gives (evaluate S source) stack (.ok (.sequence element items origin)))
    (hb : ∀ a, Gives (Run.withArgument b.slot a (evaluate S body)) stack (f a)) :
    Gives (evaluate S (.sort source descending b body)) stack (do
      let keyed ← items.mapM fun a => do return (← f a, a)
      return .ofItems (source.type S).element (sortByKeys descending keyed)) := by
  show Gives _ stack (do
    let v ← .ok (.sequence element items origin)
    let items ← itemsOf S (SequenceOperator.sort descending).name v
    let keyed ← items.mapM fun a => do return (← f a, a)
    return Value.ofItems (source.type S).element (sortByKeys descending keyed))
  rw [evaluate]
  refine hs.bind fun v _ => ?_
  refine (gives_itemsFor _ v).bind fun items _ => ?_
  refine (Gives.mapItems (fun a => ?_) items).bind fun keyed _ => gives_pure _
  exact (hb a).bind fun key _ => gives_pure _

theorem gives_sort_of_keys {element : ValueType κ} {origin : Option Nat} (descending : Bool)
    (hs : Gives (evaluate S source) stack (.ok (.sequence element items origin)))
    (hb : ∀ a, Gives (Run.withArgument b.slot a (evaluate S body)) stack (f a))
    {key : Value κ ρ → Value κ ρ} (hk : ∀ a ∈ items, f a = .ok (key a)) :
    Gives (evaluate S (.sort source descending b body)) stack
      (.ok (.ofItems (source.type S).element
        (Sort.sorted (fun a b => keyPrecedes descending (key a) (key b)) items))) := by
  have keyed : items.mapM (fun a => do return (← f a, a)) =
      (.ok (items.map fun a => (key a, a)) : Except RuntimeError _) := by
    refine mapM_of_map ?_
    rw [List.map_map]
    exact List.map_congr_left fun a ha => bind_eq_ok.mpr ⟨key a, hk a ha, rfl⟩
  have run := gives_sort descending hs hb
  rw [keyed] at run
  rw [← sortByKeys_map]
  exact run

/-! ## The order of items -/

/-- Whether an item may stand before another by their keys: ascending, with Null first, or
descending. -/
def NotAfter (f : Value κ ρ → Except RuntimeError (Value κ ρ)) (descending : Bool)
    (a b : Value κ ρ) : Prop :=
  ∃ ka kb, f a = .ok ka ∧ f b = .ok kb ∧
    if descending then (ka.sortOrder kb).isGE = true else (ka.sortOrder kb).isLE = true

/-- Whether the keys of two items are tied. -/
def tiedKeys (f : Value κ ρ → Except RuntimeError (Value κ ρ)) (a b : Value κ ρ) : Bool :=
  match f a, f b with
  | .ok ka, .ok kb => ka.sortOrder kb == .eq
  | _, _ => false

/-- What a sort is to come to on a stack where its source has some items: the first failure
of a key, or else the stable order of the items by their keys. Sorting that again changes
nothing, and sorting the reversed items the other way reverses it. -/
structure Sorts (S : Schema κ ρ) (stack items : List (Value κ ρ)) (source : Plan κ ρ)
    (descending : Bool) (b : Binder κ) (body : Plan κ ρ) : Prop where
  fails : ∀ e, FailsFirst (called S stack b body) items e →
    outcome S stack (.sort source descending b body) = .error e
  gives : (∀ a ∈ items, ∃ v, called S stack b body a = .ok v) → ∃ sorted,
    outcome S stack (.sort source descending b body) =
      .ok (.ofItems (source.type S).element sorted) ∧
    sorted.Perm items ∧
    sorted.Pairwise (NotAfter (called S stack b body) descending) ∧
    (∀ c ∈ items, sorted.filter (tiedKeys (called S stack b body) c) =
      items.filter (tiedKeys (called S stack b body) c)) ∧
    outcome S stack (.sort (.sort source descending b body) descending b body) =
      .ok (.ofItems (source.type S).element sorted) ∧
    outcome S stack (.sort (.constant (.ofItems (source.type S).element items.reverse))
        (!descending) b body) =
      .ok (.ofItems (source.type S).element sorted.reverse)

section Order

variable {key : Value κ ρ → Value κ ρ} {k : Family} (descending : Bool)

theorem notAfter_of_keys {a c : Value κ ρ} (ha : f a = .ok (key a)) (hc : f c = .ok (key c))
    (pa : (key a).Of k) (pc : (key c).Of k)
    (h : keyPrecedes descending (key c) (key a) = false) : NotAfter f descending a c := by
  refine ⟨key a, key c, ha, hc, ?_⟩
  cases descending with
  | false => exact (isLT_eq_false pa pc).mp h
  | true =>
    have h : ((key a).sortOrder (key c)).isLT = false := h
    cases order : (key a).sortOrder (key c) with
    | lt =>
      rw [order] at h
      cases h
    | eq => rfl
    | gt => rfl

theorem tied_eq_tiedKeys {a c : Value κ ρ} (ha : f a = .ok (key a)) (hc : f c = .ok (key c))
    (pa : (key a).Of k) (pc : (key c).Of k) :
    Sort.tied (fun a b => keyPrecedes descending (key a) (key b)) a c = tiedKeys f a c := by
  simp only [Sort.tied, tiedKeys, ha, hc, keyPrecedes, Value.sortOrder_swap pc pa]
  cases descending <;> cases (key a).sortOrder (key c) <;> rfl

theorem filter_tied {xs : List (Value κ ρ)} (hk : ∀ a ∈ xs, f a = .ok (key a))
    (hP : ∀ a ∈ xs, (key a).Of k) {c : Value κ ρ} (hc : f c = .ok (key c)) (pc : (key c).Of k) :
    xs.filter (Sort.tied (fun a b => keyPrecedes descending (key a) (key b)) c) =
      xs.filter (tiedKeys f c) :=
  List.filter_congr fun a ha => tied_eq_tiedKeys descending hc (hk a ha) pc (hP a ha)

/-- Keys precede each other the other way round in the other direction. -/
theorem keyPrecedes_not (a b : Value κ ρ) :
    keyPrecedes (!descending) a b = keyPrecedes descending b a := by
  cases descending <;> rfl

end Order

/-- A lambda that an operator may run on the stack, with keys of one family, sorts as it is
to. -/
theorem sorts_of_gives {element : ValueType κ} {origin : Option Nat} {k : Family}
    (descending : Bool)
    (hs : Gives (evaluate S source) stack (.ok (.sequence element items origin)))
    (hb : ∀ a, Gives (Run.withArgument b.slot a (evaluate S body)) stack (called S stack b body a))
    (family : ∀ a ∈ items, ∀ v, called S stack b body a = .ok v → v.Of k) :
    Sorts S stack items source descending b body where
  fails e h := by
    have failed := mapM_of_failsFirst (h.map fun a key => (key, a))
    rw [outcome_of_gives (gives_sort descending hs hb), failed]
    rfl
  gives all := by
    let key : Value κ ρ → Value κ ρ := fun a => (called S stack b body a).toOption.getD .null
    have hk : ∀ a ∈ items, called S stack b body a = .ok (key a) := by
      intro a ha
      obtain ⟨v, hv⟩ := all a ha
      simp only [key, hv]
      rfl
    have hP : ∀ a ∈ items, (key a).Of k := fun a ha => family a ha _ (hk a ha)
    have rank := ranks_keyPrecedes key k descending
    have stable := Sort.stable_sorted rank hP
    have mem : ∀ {a}, a ∈ Sort.sorted _ items → a ∈ items := fun h => stable.perm.subset h
    have once := gives_sort_of_keys descending hs hb hk
    refine ⟨_, outcome_of_gives once, stable.perm, ?_, fun c hc => ?_, ?_, ?_⟩
    · refine stable.ordered.imp_of_mem fun {a c} ha hc h => ?_
      exact notAfter_of_keys descending (hk a (mem ha)) (hk c (mem hc)) (hP a (mem ha))
        (hP c (mem hc)) h
    · have kept := filter_tied descending (fun a ha => hk a (mem ha)) (fun a ha => hP a (mem ha))
        (hk c hc) (hP c hc)
      exact kept.symm.trans ((stable.ties c (hP c hc)).trans
        (filter_tied descending hk hP (hk c hc) (hP c hc)))
    · have twice := gives_sort_of_keys descending once hb fun a ha => hk a (mem ha)
      rw [Sort.sorted_sorted rank hP] at twice
      exact outcome_of_gives twice
    · have source' : Gives (evaluate S (.constant
          (.ofItems (source.type S).element items.reverse))) stack
          (.ok (.sequence (source.type S).element items.reverse none)) := gives_pure _
      have back := gives_sort_of_keys (!descending) source' hb
        fun a ha => hk a (List.mem_reverse.mp ha)
      have flip := Sort.sorted_flip rank fun a ha => hP a (List.mem_reverse.mp ha)
      rw [List.reverse_reverse] at flip
      simp only [keyPrecedes_not, flip] at back
      exact outcome_of_gives back

/-! ## Stacks that fit -/

/-- A stack whose values fit the parameters around a part, the innermost on top. -/
def StackFits (S : Schema κ ρ) (scope : Scope κ) (stack : List (Value κ ρ)) : Prop :=
  List.Forall₂ (fun b v => S.Fits b.type v) scope stack.reverse

theorem StackFits.length {scope : Scope κ} (h : StackFits S scope stack) :
    stack.length = scope.length := by
  rw [← List.length_reverse, ← List.Forall₂.length_eq h]

theorem StackFits.fitting {scope : Scope κ} {env : Environment κ ρ} (h : StackFits S scope stack)
    (hm : Matches scope stack env) : Fitting S scope env := by
  induction hm with
  | nil => exact .nil
  | call x type v _ ih =>
    rw [StackFits, List.reverse_concat] at h
    cases h with
    | cons hv rest => exact (ih rest).bind x hv

variable [DecidableEq κ] {root : Root κ ρ} {scope : Scope κ} {env : Environment κ ρ}

theorem WellFormed.sorts {descending : Bool}
    (h : WellFormed S root scope (.sort source descending b body)) (honest : S.Honest)
    (hr : root.Fits S) (hm : Matches scope stack env) (he : Fitting S scope env)
    (hs : Supplies S stack source items) : Sorts S stack items source descending b body := by
  cases h with
  | @sort _ _ _ x item _ wf ts hb tb =>
    obtain ⟨element, origin, hs⟩ := hs
    have run := wf.gives_outcome hm
    rw [hs] at run
    obtain ⟨k, hk⟩ := ValueType.family?_of_isOrderable tb
    rw [wf.outcome_eq hm] at hs
    have given : itemsOf S (SequenceOperator.sort descending).name
        (.sequence element items origin) = .ok items := rfl
    have fits := fits_itemsOf (ts ▸ wf.fits_meaning honest hr he hs) given
    refine sorts_of_gives (k := k) descending run (fun a => ?_) fun a ha v hv => ?_
    · rw [hb.called_eq hm]
      exact hm.gives_call (fun v => hb.gives_meaning (hm.call x item v)) a
    · rw [hb.called_eq hm] at hv
      exact Value.of_fits (hb.fits_meaning honest hr (he.bind x (fits a ha)) hv) hk

/-! ## The law -/

/-- Over an honest schema and a root whose items fit, sorting is the stable sort wherever it
stands in a compiled plan: for every list that its source gives and for every lambda, on
every stack that fits. -/
theorem a_sort_is_the_stable_sort (honest : S.Honest) (hr : root.Fits S) (e : Expr)
    (p : Plan κ ρ) (h : compile S root e = .ok p) (scope : Scope κ) (source body : Plan κ ρ)
    (descending : Bool) (b : Binder κ) (part : Part p scope (.sort source descending b body))
    (stack items : List (Value κ ρ)) (fits : StackFits S scope stack)
    (hs : Supplies S stack source items) : Sorts S stack items source descending b body := by
  obtain ⟨wf, -⟩ := wellFormed_compile h
  obtain ⟨env, hm⟩ := wf.matches_part part stack fits.length
  exact (wf.part part).sorts honest hr hm (fits.fitting hm) hs

/-- The commits by the names of their authors, from the last one back. -/
def byAuthor : Expr :=
  .call (.name "Commits") "OrderByDescending" [.lambda "c" (.member (.name "c") "AuthorName")]

theorem the_commits_are_sorted_by_author :
    let commits := [{ Commit.blank with authorName := "Ada" },
      { Commit.blank with authorName := "Bo" },
      { Commit.blank with authorName := "Ada", sha := "1" }]
    let root : Root (Kind Empty) (Record Empty) := .ofCommits commits
    let S := Extension.nothing.schema
    S.Honest ∧ root.Fits S ∧ ∃ b body, compile S root byAuthor =
        .ok (.sort (.constant root.value) true b body) ∧ StackFits S [] [] ∧
      Supplies S [] (.constant root.value) root.items ∧
      Sorts S [] root.items (.constant root.value) true b body := by
  intro commits root S
  have h : ∃ b body, compile S root byAuthor =
      .ok (.sort (.constant root.value) true b body) := ⟨_, _, by cbv⟩
  obtain ⟨b, body, h⟩ := h
  have hr : root.Fits S := fits_ofCommits commits
  have hs : Supplies S [] (.constant root.value) root.items := ⟨_, _, rfl⟩
  exact ⟨honest_schema_nothing, hr, b, body, h, .nil, hs,
    a_sort_is_the_stable_sort honest_schema_nothing hr byAuthor _ h [] _ body true b .whole [] _
      .nil hs⟩

end CommitQuery.Plan
