-- The names of the parameters in a plan are those of its query: the compiler binds what the
-- lambdas of the query bind, and each of these names was read as a name.
import CommitQuery.Proofs.Plan.Compiled
import CommitQuery.Proofs.Query.Renaming
import CommitQuery.Proofs.Query.Written

namespace CommitQuery

open Query

/-! ## Names of a query -/

namespace Query.Expr

theorem identifiersOf_eq_flatMap (es : List Expr) : identifiersOf es = es.flatMap identifiers := by
  induction es with
  | nil => rfl
  | cons e more ih =>
    rw [List.flatMap_cons, ← ih]
    rfl

/-- A query that can be written has names only where it has parameters. -/
theorem Written.isName {e : Expr} (h : Written e) : ∀ x ∈ e.identifiers, IsName x := by
  induction h with
  | name hs => exact List.forall_mem_singleton.mpr hs
  | text | number => exact fun _ hx => nomatch hx
  | member _ _ _ ih => exact ih
  | call _ _ _ _ ht ha =>
    refine List.forall_mem_append.mpr ⟨ht, fun x hx => ?_⟩
    rw [identifiersOf_eq_flatMap] at hx
    obtain ⟨a, mem, hx⟩ := List.mem_flatMap.mp hx
    exact ha a mem x hx
  | lambda hx _ ih => exact List.forall_mem_cons.mpr ⟨hx, ih⟩
  | binary _ _ _ hl hr => exact List.forall_mem_append.mpr ⟨hl, hr⟩

end Query.Expr

/-! ## Names of a plan -/

namespace Plan

variable {κ ρ : Type}

mutual

/-- The names of the parameters that a plan reads and of those that its lambdas bind. -/
def parameterNames : Plan κ ρ → List String
  | .constant _ => []
  | .parameter b => [b.name]
  | .member target _ => target.parameterNames
  | .invoke target _ arguments => target.parameterNames ++ parameterNamesOf arguments
  | .convert inner _ => inner.parameterNames
  | .compare left _ right => left.parameterNames ++ right.parameterNames
  | .logical left _ right => left.parameterNames ++ right.parameterNames
  | .lambda b body => b.name :: body.parameterNames
  | .filter source b body => source.parameterNames ++ b.name :: body.parameterNames
  | .select source b body => source.parameterNames ++ b.name :: body.parameterNames
  | .sort source _ b body => source.parameterNames ++ b.name :: body.parameterNames
  | .slice source _ count => source.parameterNames ++ count.parameterNames
  | .find source _ => source.parameterNames
  | .findWhere source _ b body => source.parameterNames ++ b.name :: body.parameterNames

def parameterNamesOf : List (Plan κ ρ) → List String
  | [] => []
  | p :: more => p.parameterNames ++ parameterNamesOf more

end

theorem parameterNames_subset_of_mem {p : Plan κ ρ} {ps : List (Plan κ ρ)} (h : p ∈ ps) :
    p.parameterNames ⊆ parameterNamesOf ps := by
  induction ps with
  | nil => cases h
  | cons q more ih =>
    rcases List.mem_cons.mp h with rfl | h
    · exact List.subset_append_left _ _
    · exact List.subset_append_of_subset_right _ (ih h)

/-! ## The parts of the compiler -/

variable {S : Schema κ ρ} {root : Root κ ρ}

theorem append_subset_append {ns ns' ms ms' : List String} (hn : ns ⊆ ns') (hm : ms ⊆ ms') :
    ns ++ ms ⊆ ns' ++ ms' :=
  List.append_subset.mpr
    ⟨List.subset_append_of_subset_left _ hn, List.subset_append_of_subset_right _ hm⟩

theorem parameterNames_ofName {scope : Scope κ} {name : String} {p : Plan κ ρ}
    (h : ofName root scope name = .ok p) : p.parameterNames ⊆ [name] := by
  unfold ofName at h
  split at h
  · rename_i b hb
    cases h
    have same : b.name = name := by simpa using List.find?_some hb
    exact List.cons_subset.mpr ⟨by simp [same], List.nil_subset _⟩
  · split at h
    · cases h
      exact List.nil_subset _
    · cases h

theorem parameterNames_ofMember {target p : Plan κ ρ} {name : String}
    (h : ofMember S target name = .ok p) : p.parameterNames = target.parameterNames := by
  unfold ofMember at h
  split at h
  · cases h
    rfl
  · cases h

variable [DecidableEq κ]

theorem parameterNames_toWidth (p : Plan κ ρ) (w : Width) :
    (p.toWidth S w).parameterNames = p.parameterNames := by
  unfold toWidth
  split
  · rfl
  · rfl

theorem parameterNames_widen (left right : Plan κ ρ) :
    (widen S left right).1.parameterNames = left.parameterNames ∧
      (widen S left right).2.parameterNames = right.parameterNames := by
  unfold widen
  split
  · exact ⟨parameterNames_toWidth left .long, rfl⟩
  · exact ⟨rfl, parameterNames_toWidth right .long⟩
  · exact ⟨rfl, rfl⟩

theorem parameterNames_coerce (a : Plan κ ρ) (type : ValueType κ) :
    (coerce S a type).parameterNames = a.parameterNames := by
  unfold coerce
  split
  · split
    · exact parameterNames_toWidth a .int
    · exact parameterNames_toWidth a .long
    · rfl
  · rfl

theorem parameterNamesOf_zipWith_coerce (arguments : List (Plan κ ρ))
    (parameters : List (ValueType κ)) :
    parameterNamesOf (arguments.zipWith (coerce S) parameters) ⊆ parameterNamesOf arguments := by
  induction arguments generalizing parameters with
  | nil => exact List.nil_subset _
  | cons a more ih =>
    cases parameters with
    | nil => exact List.nil_subset _
    | cons type rest =>
      refine List.append_subset.mpr ⟨?_, List.subset_append_of_subset_right _ (ih rest)⟩
      rw [parameterNames_coerce]
      exact List.subset_append_left _ _

theorem parameterNames_ofOperator {left right p : Plan κ ρ} {op : Operator}
    (h : ofOperator S left op right = .ok p) :
    p.parameterNames = left.parameterNames ++ right.parameterNames := by
  unfold ofOperator at h
  split at h
  · split at h
    · cases h
      rfl
    · cases h
  · dsimp only at h
    split at h
    · cases h
      obtain ⟨samel, samer⟩ := parameterNames_widen (S := S) left right
      rw [← samel, ← samer]
      rfl
    · cases h

theorem parameterNames_ofCall {target p : Plan κ ρ} {name : String} {arguments : List (Plan κ ρ)}
    (h : ofCall S target name arguments = .ok p) :
    p.parameterNames ⊆ target.parameterNames ++ parameterNamesOf arguments := by
  unfold ofCall at h
  split at h
  · cases h
  · split at h
    · rename_i m _
      cases h
      refine List.append_subset.mpr ⟨List.subset_append_left _ _, ?_⟩
      exact List.subset_append_of_subset_right _
        (parameterNamesOf_zipWith_coerce arguments m.parameters)
    · cases h

theorem parameterNames_ofLambda {source body p : Plan κ ρ} {item : ValueType κ}
    {op : SequenceOperator} {b : Binder κ} (h : ofLambda S source item op b body = .ok p) :
    p.parameterNames = source.parameterNames ++ b.name :: body.parameterNames := by
  unfold ofLambda at h
  split at h
  · split at h <;> cases h
    rfl
  · cases h
    rfl
  · split at h <;> cases h
    rfl
  · split at h <;> cases h
    rfl
  · cases h

theorem parameterNames_ofCount {source count p : Plan κ ρ} {item : ValueType κ} {s : Slice}
    (h : ofCount S source item s count = .ok p) :
    p.parameterNames = source.parameterNames ++ count.parameterNames := by
  have all : (Plan.slice source s (count.toWidth S .int)).parameterNames =
      source.parameterNames ++ count.parameterNames :=
    congrArg (source.parameterNames ++ ·) (parameterNames_toWidth count .int)
  unfold ofCount at h
  split at h <;> cases h
  · exact all
  · exact all

/-! ## Whole queries -/

mutual

/-- A plan has no names for parameters but those of its query. -/
theorem parameterNames_compileIn {scope : Scope κ} {element : Option (ValueType κ)} {e : Expr}
    {p : Plan κ ρ} (h : compileIn S root scope element e = .ok p) :
    p.parameterNames ⊆ e.identifiers := by
  cases e with
  | name s => exact parameterNames_ofName h
  | text s | number n =>
    cases h
    exact List.nil_subset _
  | member target field =>
    simp only [compileIn, bind_eq_ok] at h
    obtain ⟨_, _, t, ht, h⟩ := h
    have inside : t.parameterNames ⊆ target.identifiers := parameterNames_compileIn ht
    rw [parameterNames_ofMember h]
    exact inside
  | call target method arguments =>
    obtain ⟨source, hs, cases⟩ := compileIn_call h
    have callee : source.parameterNames ⊆ target.identifiers := parameterNames_compileIn hs
    rcases cases with ⟨item, op, -, -, h⟩ | ⟨-, ps, ha, h⟩
    · exact List.Subset.trans (parameterNames_compileOperator h)
        (append_subset_append callee (List.Subset.refl _))
    · exact List.Subset.trans (parameterNames_ofCall h)
        (append_subset_append callee (parameterNames_compileAll ha))
  | lambda x body =>
    simp only [compileIn, bind_eq_ok] at h
    obtain ⟨_, _, b, hb, h⟩ := h
    cases h
    exact List.cons_subset_cons x (parameterNames_compileIn hb)
  | binary left op right =>
    simp only [compileIn, bind_eq_ok] at h
    obtain ⟨_, _, l, hl, _, _, r, hr, h⟩ := h
    rw [parameterNames_ofOperator h]
    exact append_subset_append (parameterNames_compileIn hl) (parameterNames_compileIn hr)
termination_by sizeOf e

theorem parameterNames_compileAll {scope : Scope κ} {element : Option (ValueType κ)}
    {es : List Expr} {ps : List (Plan κ ρ)} (h : compileAll S root scope element es = .ok ps) :
    parameterNamesOf ps ⊆ Expr.identifiersOf es := by
  cases es with
  | nil =>
    cases h
    exact List.nil_subset _
  | cons e more =>
    simp only [compileAll, bind_eq_ok] at h
    obtain ⟨p, hp, rest, hrest, h⟩ := h
    cases h
    exact append_subset_append (parameterNames_compileIn hp) (parameterNames_compileAll hrest)
termination_by sizeOf es

theorem parameterNames_compileOperator {scope : Scope κ} {source p : Plan κ ρ}
    {item : ValueType κ} {op : SequenceOperator} {arguments : List Expr}
    (h : compileOperator S root scope source item op arguments = .ok p) :
    p.parameterNames ⊆ source.parameterNames ++ Expr.identifiersOf arguments := by
  unfold compileOperator at h
  split at h
  · split at h <;> cases h
    exact List.subset_append_left _ _
  · rename_i x body
    split at h
    · cases h
    · simp only [bind_eq_ok] at h
      obtain ⟨_, _, b, hb, h⟩ := h
      rw [parameterNames_ofLambda h]
      have inside := List.cons_subset_cons x (parameterNames_compileIn hb)
      refine append_subset_append (List.Subset.refl _) ?_
      exact List.subset_append_of_subset_left _ inside
  · split at h
    · obtain ⟨count, hc, h⟩ := bind_eq_ok.mp h
      rw [parameterNames_ofCount h]
      refine append_subset_append (List.Subset.refl _) ?_
      exact List.subset_append_of_subset_left _ (parameterNames_compileIn hc)
    · cases h
  · cases h
termination_by sizeOf arguments

end

/-- The parameters of the plan of a query text are named by names. -/
theorem isName_of_compileText {query : String} {p : Plan κ ρ}
    (h : compileText S root query = .ok p) : ∀ x ∈ p.parameterNames, IsName x := by
  obtain ⟨e, parsed, -, h⟩ := compileText_eq_ok h
  exact fun x hx => (written_of_parse parsed).isName x (parameterNames_compileIn h hx)

end Plan

end CommitQuery
