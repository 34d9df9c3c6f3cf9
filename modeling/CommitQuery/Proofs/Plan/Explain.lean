-- What the tree of a plan tells. It has a node for each plan within the plan and for each
-- lambda that an operator calls, and titles and details that can be told apart on their lines:
-- so its text, whatever texts the query holds, is the text of that tree alone.
import CommitQuery.Proofs.Commit.Honest
import CommitQuery.Proofs.Plan.Binders
import CommitQuery.Proofs.Plan.Progress
import CommitQuery.Proofs.Plan.Titles

namespace CommitQuery

variable {κ ρ : Type}

namespace Plan

open Query PlanNode

/-! ## The tree of a plan -/

mutual

/-- A plan and the plans within it, with the bodies of lambdas. -/
def subplans (p : Plan κ ρ) : List (Plan κ ρ) :=
  p :: match p with
  | .constant _ | .parameter _ => []
  | .member target _ => target.subplans
  | .invoke target _ arguments => target.subplans ++ subplansOf arguments
  | .convert inner _ => inner.subplans
  | .compare left _ right => left.subplans ++ right.subplans
  | .logical left _ right => left.subplans ++ right.subplans
  | .lambda _ body => body.subplans
  | .filter source _ body => source.subplans ++ body.subplans
  | .select source _ body => source.subplans ++ body.subplans
  | .sort source _ _ body => source.subplans ++ body.subplans
  | .slice source _ count => source.subplans ++ count.subplans
  | .find source _ => source.subplans
  | .findWhere source _ _ body => source.subplans ++ body.subplans

def subplansOf : List (Plan κ ρ) → List (Plan κ ρ)
  | [] => []
  | p :: more => p.subplans ++ subplansOf more

end

/-- The nodes for some plans: one for each, and one more for a lambda that it calls. -/
def nodeCount (ps : List (Plan κ ρ)) : Nat := ps.length + ps.countP (·.lambda?.isSome)

theorem nodeCount_cons (p : Plan κ ρ) (ps : List (Plan κ ρ)) :
    nodeCount (p :: ps) = 1 + (if p.lambda?.isSome then 1 else 0) + nodeCount ps := by
  simp only [nodeCount, List.length_cons, List.countP_cons]
  omega

theorem nodeCount_append (ps qs : List (Plan κ ρ)) :
    nodeCount (ps ++ qs) = nodeCount ps + nodeCount qs := by
  simp only [nodeCount, List.length_append, List.countP_append]
  omega

variable (S : Schema κ ρ)

mutual

/-- The tree of a plan has a node for each plan within it and for each operator's lambda. -/
theorem size_explainAt (depth : Nat) (p : Plan κ ρ) :
    (explainAt S depth p).size = nodeCount p.subplans := by
  cases p with
  | constant v => cases v <;> rfl
  | parameter b => rfl
  | member q | convert q | find q =>
    have own := size_explainAt (depth + 1) q
    simp [explainAt, size, sizes, subplans, nodeCount_cons, lambda?, own]
  | invoke target m arguments =>
    have callee := size_explainAt (depth + 1) target
    have passed := sizes_explainAll (depth + 1) arguments
    simp [explainAt, size, sizes, subplans, nodeCount_cons, nodeCount_append, lambda?, callee,
      passed]
  | compare left _ right | logical left _ right | slice left _ right =>
    have l := size_explainAt (depth + 1) left
    have r := size_explainAt (depth + 1) right
    simp [explainAt, size, sizes, subplans, nodeCount_cons, nodeCount_append, lambda?, l, r]
  | lambda b body =>
    have inner := size_explainAt (depth + 1) body
    simp [explainAt, explainLambda, size, sizes, subplans, nodeCount_cons, lambda?, inner]
  | filter source b body | select source b body | sort source _ b body
  | findWhere source _ b body =>
    have items := size_explainAt (depth + 1) source
    have inner := size_explainAt (depth + 2) body
    simp only [explainAt, explainLambda, size, sizes, subplans, nodeCount_cons, nodeCount_append,
      lambda?, Option.isSome_some, if_true, items, inner]
    omega

theorem sizes_explainAll (depth : Nat) (ps : List (Plan κ ρ)) :
    sizes (explainAll S depth ps) = nodeCount (subplansOf ps) := by
  cases ps with
  | nil => rfl
  | cons p more =>
    rw [explainAll, sizes, subplansOf, nodeCount_append, size_explainAt depth p,
      sizes_explainAll depth more]

end

/-- A node over two children. -/
theorem forall_mem_pair {P : PlanNode → Prop} {n m : PlanNode} (hn : P n) (hm : P m) :
    ∀ child ∈ [n, m], P child :=
  List.forall_mem_cons.mpr ⟨hn, List.forall_mem_singleton.mpr hm⟩

theorem standsAt_explainLambda {S : Schema κ ρ} {depth : Nat} {b : Binder κ}
    {result : ValueType κ} {body : PlanNode} (h : body.StandsAt (depth + 1)) :
    (explainLambda S b result body depth).StandsAt depth :=
  .node (List.forall_mem_singleton.mpr h)

mutual

theorem standsAt_explainAt (depth : Nat) (p : Plan κ ρ) :
    (explainAt S depth p).StandsAt depth := by
  cases p with
  | constant v => cases v <;> exact .node (by simp)
  | parameter b => exact .node (by simp)
  | member q | convert q | find q =>
    exact .node (List.forall_mem_singleton.mpr (standsAt_explainAt (depth + 1) q))
  | invoke target m arguments =>
    exact .node (List.forall_mem_cons.mpr
      ⟨standsAt_explainAt (depth + 1) target, standsAt_explainAll (depth + 1) arguments⟩)
  | compare left _ right | logical left _ right | slice left _ right =>
    exact .node (forall_mem_pair (standsAt_explainAt (depth + 1) left)
      (standsAt_explainAt (depth + 1) right))
  | lambda b body => exact standsAt_explainLambda (standsAt_explainAt (depth + 1) body)
  | filter source b body | select source b body | sort source _ b body
  | findWhere source _ b body =>
    exact .node (forall_mem_pair (standsAt_explainAt (depth + 1) source)
      (standsAt_explainLambda (standsAt_explainAt (depth + 2) body)))

theorem standsAt_explainAll (depth : Nat) (ps : List (Plan κ ρ)) :
    ∀ n ∈ explainAll S depth ps, n.StandsAt depth := by
  cases ps with
  | nil => exact fun _ hn => nomatch hn
  | cons p more =>
    exact List.forall_mem_cons.mpr ⟨standsAt_explainAt depth p, standsAt_explainAll depth more⟩

end

/-! ## The lines of the tree -/

variable {S : Schema κ ρ}

theorem legible_explainLambda (hS : S.Unspaced) {depth : Nat} {b : Binder κ}
    {result : ValueType κ} {body : PlanNode} (name : IsName b.name) (h : body.Legible) :
    (explainLambda S b result body depth).Legible := by
  refine .node (isTitle_lambda name) ?_ (List.forall_mem_singleton.mpr (isDetail_slot b.slot))
    (List.forall_mem_singleton.mpr h)
  simp [hS.unbroken_typeName]

theorem legible_explainAll {depth : Nat} {ps : List (Plan κ ρ)}
    (h : ∀ p ∈ ps, (explainAt S depth p).Legible) : ∀ n ∈ explainAll S depth ps, n.Legible := by
  induction ps with
  | nil => exact fun _ hn => nomatch hn
  | cons p more ih =>
    rw [List.forall_mem_cons] at h
    exact List.forall_mem_cons.mpr ⟨h.1, ih h.2⟩

variable [DecidableEq κ] {root : Root κ ρ} {scope : Scope κ} {p : Plan κ ρ}

theorem WellFormed.legible (h : WellFormed S root scope p) (hS : S.Unspaced)
    (names : ∀ x ∈ p.parameterNames, IsName x) (depth : Nat) :
    (explainAt S depth p).Legible := by
  have type := hS.unbroken_typeName
  have noDetail : ∀ d ∈ ([] : List String), IsDetail d := by simp
  have noChild : ∀ n ∈ ([] : List PlanNode), n.Legible := by simp
  induction h generalizing depth with
  | root =>
    exact .node (by decide) (type _) (List.forall_mem_singleton.mpr (isDetail_count _)) noChild
  | text s =>
    exact .node (by decide) (type _) (List.forall_mem_singleton.mpr (isDetail_quoted s)) noChild
  | number n =>
    have detail := (isWord_toString_int n.toInt).isDetail
    exact .node (by decide) (type _) (List.forall_mem_singleton.mpr detail) noChild
  | @parameter _ b _ =>
    have name := (names b.name (List.mem_singleton.mpr rfl)).isWord
    exact .node (isTitle_word (by decide) name) (type _)
      (List.forall_mem_singleton.mpr (isDetail_slot b.slot)) noChild
  | member _ hm ih =>
    exact .node (isTitle_word (by decide) (hS.member hm)) (type _) noDetail
      (List.forall_mem_singleton.mpr (ih names (depth + 1)))
  | invoke _ hm _ _ ht ha =>
    obtain ⟨callee, passed⟩ := List.forall_mem_append.mp names
    have name := hS.method hm
    refine .node (isTitle_word (by decide) name) (type _)
      (List.forall_mem_singleton.mpr (hS.isDetail_signature name)) ?_
    refine List.forall_mem_cons.mpr ⟨ht callee (depth + 1), legible_explainAll fun a mem => ?_⟩
    exact ha a mem (fun x hx => passed x (parameterNames_subset_of_mem mem hx)) (depth + 1)
  | convert w _ _ ih =>
    refine .node ?_ (type _) noDetail (List.forall_mem_singleton.mpr (ih names (depth + 1)))
    cases w with
    | int => exact (by decide : IsTitle "Convert to Int")
    | long => exact (by decide : IsTitle "Convert to Long")
  | compare c _ _ _ _ _ hl hr =>
    obtain ⟨left, right⟩ := List.forall_mem_append.mp names
    refine .node ?_ (type _) noDetail
      (forall_mem_pair (hl left (depth + 1)) (hr right (depth + 1)))
    cases c <;> decide
  | logical c _ _ _ _ hl hr =>
    obtain ⟨left, right⟩ := List.forall_mem_append.mp names
    refine .node ?_ (type _) (List.forall_mem_singleton.mpr (by decide))
      (forall_mem_pair (hl left (depth + 1)) (hr right (depth + 1)))
    cases c <;> decide
  | lambda _ _ ih =>
    obtain ⟨own, inside⟩ := List.forall_mem_cons.mp names
    exact legible_explainLambda hS own (ih inside (depth + 1))
  | filter _ _ _ _ hs hb | select _ _ _ _ hs hb =>
    obtain ⟨before, inside⟩ := List.forall_mem_append.mp names
    obtain ⟨own, inside⟩ := List.forall_mem_cons.mp inside
    exact .node (by decide) (type _) noDetail (forall_mem_pair (hs before (depth + 1))
      (legible_explainLambda hS own (hb inside (depth + 2))))
  | sort descending _ _ _ _ hs hb =>
    obtain ⟨before, inside⟩ := List.forall_mem_append.mp names
    obtain ⟨own, inside⟩ := List.forall_mem_cons.mp inside
    refine .node ?_ (type _) (List.forall_mem_singleton.mpr (by decide))
      (forall_mem_pair (hs before (depth + 1))
        (legible_explainLambda hS own (hb inside (depth + 2))))
    cases descending <;> decide
  | slice s _ _ _ _ hs hc =>
    obtain ⟨before, inside⟩ := List.forall_mem_append.mp names
    refine .node ?_ (type _) noDetail
      (forall_mem_pair (hs before (depth + 1)) (hc inside (depth + 1)))
    cases s <;> decide
  | find f _ _ hs =>
    refine .node ?_ (type _) noDetail (List.forall_mem_singleton.mpr (hs names (depth + 1)))
    cases f <;> decide
  | findWhere f _ _ _ _ hs hb =>
    obtain ⟨before, inside⟩ := List.forall_mem_append.mp names
    obtain ⟨own, inside⟩ := List.forall_mem_cons.mp inside
    refine .node ?_ (type _) noDetail (forall_mem_pair (hs before (depth + 1))
      (legible_explainLambda hS own (hb inside (depth + 2))))
    cases f <;> decide

/-- The tree of a query that compiles has lines to tell it by. -/
theorem legible_explain {query : String} (hS : S.Unspaced)
    (h : compileText S root query = .ok p) : (explain S p).Legible := by
  obtain ⟨e, -, -, compiled⟩ := compileText_eq_ok h
  exact (wellFormed_compileIn compiled).1.legible hS (isName_of_compileText h) 0

/-! ## The law -/

/-- Over names without blanks, the text that a query is explained with tells the whole tree.
The tree has a node for each plan within the plan and one for each lambda that an operator
calls, and each of its nodes stands one deeper than its parent; and two queries with the
same text, whatever texts they hold and over whatever schemas they compile, have one tree:
the same types, details, order and nesting. -/
theorem the_text_of_a_plan_tells_its_tree {κ' ρ' : Type} [DecidableEq κ'] {S' : Schema κ' ρ'}
    {root' : Root κ' ρ'} {query query' : String} {p' : Plan κ' ρ'} (hS : S.Unspaced)
    (hS' : S'.Unspaced) (h : compileText S root query = .ok p)
    (h' : compileText S' root' query' = .ok p') :
    (explain S p).size = p.subplans.length + p.subplans.countP (·.lambda?.isSome) ∧
      (explain S p).StandsAt 0 ∧
      ((explain S p).render = (explain S' p').render → explain S p = explain S' p') := by
  refine ⟨size_explainAt S 0 p, standsAt_explainAt S 0 p, fun same => ?_⟩
  exact render_inj (standsAt_explainAt S 0 p) (standsAt_explainAt S' 0 p')
    (legible_explain hS h) (legible_explain hS' h') same

/-- A search for a text that looks like lines of a tree, in two ways of writing it. -/
def treeLikeSearch : String := "Commits.Where(c => c.Sha == 'a\n   -> Take  (Int)\n\"')"

def treeLikeSearchInSmall : String := "Commits . where(c=>c.sha=='a\n   -> Take  (Int)\n\"')"

theorem a_search_for_lines_of_a_tree_tells_its_tree :
    let S := Extension.nothing.schema
    let empty : Commit := { Commit.blank with sha := "0" }
    S.Unspaced ∧ ∃ p p',
      compileText S (.ofCommits [.blank]) treeLikeSearch = .ok p ∧
      compileText S (.ofCommits [empty]) treeLikeSearchInSmall = .ok p' ∧
      (explain S p).render = (explain S p').render ∧ (explain S p).size = 7 ∧
      (explain S p).StandsAt 0 ∧ explain S p = explain S p' := by
  intro S empty
  have hS : S.Unspaced := Schema.unspaced_schema nofun nofun nofun
  have runs : ∃ p p',
      compileText S (.ofCommits [.blank]) treeLikeSearch = .ok p ∧
      compileText S (.ofCommits [empty]) treeLikeSearchInSmall = .ok p' ∧
      (explain S p).render = (explain S p').render ∧ p.subplans.length = 6 ∧
      p.subplans.countP (·.lambda?.isSome) = 1 :=
    ⟨_, _, by cbv, by cbv, rfl, rfl, rfl⟩
  obtain ⟨p, p', h, h', same, parts, lambdas⟩ := runs
  obtain ⟨size, stands, law⟩ := the_text_of_a_plan_tells_its_tree hS hS h h'
  exact ⟨hS, p, p', h, h', same, by rw [size, parts, lambdas], stands, law same⟩

end Plan

end CommitQuery
