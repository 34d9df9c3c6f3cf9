-- The members, methods and operators that a plan works with are those that its query
-- names, up to the case of ASCII letters: the compiler makes up none of its own.
import CommitQuery.Proofs.Plan.WellFormed

namespace CommitQuery

open Query Text

variable {κ ρ : Type}

/-! ## Names -/

mutual

/-- The names after the dots of a query. -/
def Query.Expr.selectors : Expr → List String
  | .name _ | .text _ | .number _ => []
  | .member target field => field :: target.selectors
  | .call target method arguments => method :: target.selectors ++ selectorsOf arguments
  | .lambda _ body => body.selectors
  | .binary left _ right => left.selectors ++ right.selectors

def Query.Expr.selectorsOf : List Expr → List String
  | [] => []
  | e :: more => e.selectors ++ selectorsOf more

end

namespace Plan

mutual

/-- The names of the members, methods and operators of a plan. -/
def selectors : Plan κ ρ → List String
  | .constant _ | .parameter _ => []
  | .member target m => m.name :: target.selectors
  | .invoke target m arguments => m.name :: target.selectors ++ selectorsOf arguments
  | .convert inner _ => inner.selectors
  | .compare left _ right => left.selectors ++ right.selectors
  | .logical left _ right => left.selectors ++ right.selectors
  | .lambda _ body => body.selectors
  | .filter source _ body => SequenceOperator.filter.name :: source.selectors ++ body.selectors
  | .select source _ body => SequenceOperator.select.name :: source.selectors ++ body.selectors
  | .sort source descending _ body =>
    (SequenceOperator.sort descending).name :: source.selectors ++ body.selectors
  | .slice source s count => s.name :: source.selectors ++ count.selectors
  | .find source finder => finder.name :: source.selectors
  | .findWhere source finder _ body => finder.name :: source.selectors ++ body.selectors

def selectorsOf : List (Plan κ ρ) → List String
  | [] => []
  | p :: more => p.selectors ++ selectorsOf more

end

/-- Each name of one list is a name of the other, up to the case of ASCII letters. -/
def Named (names known : List String) : Prop :=
  ∀ n ∈ names, ∃ k ∈ known, equalsIgnoringAsciiCase n k = true

theorem named_nil (known : List String) : Named [] known := by simp [Named]

theorem Named.mono {names known more : List String} (h : Named names known)
    (hk : known ⊆ more) : Named names more := by
  intro n hn
  obtain ⟨k, hmem, same⟩ := h n hn
  exact ⟨k, hk hmem, same⟩

theorem named_append {names others known : List String} :
    Named (names ++ others) known ↔ Named names known ∧ Named others known :=
  List.forall_mem_append

theorem named_cons {n : String} {names known : List String} :
    Named (n :: names) known ↔
      (∃ k ∈ known, equalsIgnoringAsciiCase n k = true) ∧ Named names known :=
  List.forall_mem_cons

/-! ## The parts of the compiler -/

section Parts

variable {S : Schema κ ρ} {root : Root κ ρ}

theorem named_ofName {scope : Scope κ} {name : String} {p : Plan κ ρ}
    (h : ofName root scope name = .ok p) (known : List String) : Named p.selectors known := by
  unfold ofName at h
  split at h
  · cases h
    exact named_nil known
  · split at h
    · cases h
      exact named_nil known
    · cases h

theorem named_ofMember {target p : Plan κ ρ} {name : String} {known : List String}
    (ht : Named target.selectors known) (h : ofMember S target name = .ok p) :
    Named p.selectors (name :: known) := by
  unfold ofMember at h
  split at h
  · rename_i m hm
    cases h
    have same : equalsIgnoringAsciiCase m.name name = true :=
      List.find?_some (p := fun m : Member κ ρ => equalsIgnoringAsciiCase m.name name) hm
    exact named_cons.mpr ⟨⟨name, by simp, same⟩, ht.mono (by simp)⟩
  · cases h

variable [DecidableEq κ]

theorem selectors_toWidth (p : Plan κ ρ) (w : Width) :
    (p.toWidth S w).selectors = p.selectors := by
  unfold toWidth
  split
  · rfl
  · rfl

theorem selectors_widen (left right : Plan κ ρ) :
    (widen S left right).1.selectors = left.selectors ∧
      (widen S left right).2.selectors = right.selectors := by
  unfold widen
  split
  · exact ⟨selectors_toWidth left .long, rfl⟩
  · exact ⟨rfl, selectors_toWidth right .long⟩
  · exact ⟨rfl, rfl⟩

theorem selectors_coerce (a : Plan κ ρ) (type : ValueType κ) :
    (coerce S a type).selectors = a.selectors := by
  unfold coerce
  split
  · split
    · exact selectors_toWidth a .int
    · exact selectors_toWidth a .long
    · rfl
  · rfl

/-- Passing arguments to parameters keeps the arguments that have a parameter. -/
theorem named_zipWith_coerce {arguments : List (Plan κ ρ)} {parameters : List (ValueType κ)}
    {known : List String} (h : Named (selectorsOf arguments) known) :
    Named (selectorsOf (arguments.zipWith (coerce S) parameters)) known := by
  induction arguments generalizing parameters with
  | nil => exact named_nil known
  | cons a more ih =>
    cases parameters with
    | nil => exact named_nil known
    | cons type rest =>
      obtain ⟨first, others⟩ := named_append.mp h
      refine named_append.mpr ⟨?_, ih others⟩
      rw [selectors_coerce]
      exact first

theorem named_ofOperator {left right p : Plan κ ρ} {op : Operator} {known : List String}
    (hl : Named left.selectors known) (hr : Named right.selectors known)
    (h : ofOperator S left op right = .ok p) : Named p.selectors known := by
  unfold ofOperator at h
  split at h
  · split at h
    · cases h
      exact named_append.mpr ⟨hl, hr⟩
    · cases h
  · dsimp only at h
    split at h
    · cases h
      obtain ⟨samel, samer⟩ := selectors_widen (S := S) left right
      refine named_append.mpr ⟨?_, ?_⟩
      · rw [samel]
        exact hl
      · rw [samer]
        exact hr
    · cases h

theorem named_ofCall {target p : Plan κ ρ} {name : String} {arguments : List (Plan κ ρ)}
    {known : List String} (ht : Named target.selectors known)
    (ha : Named (selectorsOf arguments) known) (h : ofCall S target name arguments = .ok p) :
    Named p.selectors (name :: known) := by
  unfold ofCall at h
  split at h
  · cases h
  · rename_i first more found
    split at h
    · rename_i m hm
      cases h
      have mem := (chooseMethod?_some hm).1
      rw [← found] at mem
      simp only [Schema.findMethods, List.mem_filter, Bool.and_eq_true] at mem
      have own : Named (m.name :: target.selectors) (name :: known) :=
        named_cons.mpr ⟨⟨name, by simp, mem.2.1⟩, ht.mono (by simp)⟩
      exact named_append.mpr ⟨own, (named_zipWith_coerce ha).mono (by simp)⟩
    · cases h

theorem named_ofLambda {source body p : Plan κ ρ} {item : ValueType κ} {op : SequenceOperator}
    {b : Binder κ} {known : List String}
    (ho : ∃ k ∈ known, equalsIgnoringAsciiCase op.name k = true)
    (hs : Named source.selectors known) (hb : Named body.selectors known)
    (h : ofLambda S source item op b body = .ok p) : Named p.selectors known := by
  have all : Named (op.name :: source.selectors ++ body.selectors) known :=
    named_append.mpr ⟨named_cons.mpr ⟨ho, hs⟩, hb⟩
  unfold ofLambda at h
  split at h
  · split at h
    · cases h
      exact all
    · cases h
  · cases h
    exact all
  · split at h
    · cases h
      exact all
    · cases h
  · split at h
    · cases h
      exact all
    · cases h
  · cases h

theorem named_ofCount {source count p : Plan κ ρ} {item : ValueType κ} {s : Slice}
    {known : List String} (ho : ∃ k ∈ known, equalsIgnoringAsciiCase s.name k = true)
    (hs : Named source.selectors known) (hc : Named count.selectors known)
    (h : ofCount S source item s count = .ok p) : Named p.selectors known := by
  have all : Named (Plan.slice source s (count.toWidth S .int)).selectors known := by
    refine named_append.mpr ⟨named_cons.mpr ⟨ho, hs⟩, ?_⟩
    rw [selectors_toWidth]
    exact hc
  unfold ofCount at h
  split at h
  · cases h
    exact all
  · cases h
    exact all
  · cases h

/-! ## Whole queries -/

mutual

theorem named_compileIn {scope : Scope κ} {element : Option (ValueType κ)} {e : Expr}
    {p : Plan κ ρ} (h : compileIn S root scope element e = .ok p) :
    Named p.selectors e.selectors := by
  cases e with
  | name s => exact named_ofName h _
  | text s =>
    cases h
    exact named_nil _
  | number n =>
    cases h
    exact named_nil _
  | member target field =>
    simp only [compileIn, bind_eq_ok] at h
    obtain ⟨_, _, t, ht, h⟩ := h
    exact named_ofMember (named_compileIn ht) h
  | call target method arguments =>
    simp only [compileIn, bind_eq_ok] at h
    obtain ⟨_, _, source, hs, h⟩ := h
    have source_named :=
      (named_compileIn hs).mono (List.subset_append_left _ (Expr.selectorsOf arguments))
    split at h
    · split at h
      · cases h
      · rename_i op hop
        have same : equalsIgnoringAsciiCase op.name method = true :=
          List.find?_some (p := fun o : SequenceOperator => equalsIgnoringAsciiCase o.name method)
            hop
        exact named_compileOperator ⟨method, by simp [Expr.selectors], same⟩
          (source_named.mono (by simp [Expr.selectors])) (by simp [Expr.selectors]) h
    · obtain ⟨ps, ha, h⟩ := bind_eq_ok.mp h
      exact named_ofCall source_named ((named_compileAll ha).mono (by simp)) h
  | lambda x body =>
    simp only [compileIn, bind_eq_ok] at h
    obtain ⟨_, _, b, hb, h⟩ := h
    cases h
    have inside : Named b.selectors body.selectors := named_compileIn hb
    exact inside
  | binary left op right =>
    simp only [compileIn, bind_eq_ok] at h
    obtain ⟨_, _, l, hl, _, _, r, hr, h⟩ := h
    exact named_ofOperator ((named_compileIn hl).mono (by simp [Expr.selectors]))
      ((named_compileIn hr).mono (by simp [Expr.selectors])) h
termination_by sizeOf e

theorem named_compileAll {scope : Scope κ} {element : Option (ValueType κ)} {es : List Expr}
    {ps : List (Plan κ ρ)} (h : compileAll S root scope element es = .ok ps) :
    Named (selectorsOf ps) (Expr.selectorsOf es) := by
  cases es with
  | nil =>
    cases h
    exact named_nil _
  | cons e more =>
    simp only [compileAll, bind_eq_ok] at h
    obtain ⟨p, hp, rest, hrest, h⟩ := h
    cases h
    exact named_append.mpr ⟨(named_compileIn hp).mono (by simp [Expr.selectorsOf]),
      (named_compileAll hrest).mono (by simp [Expr.selectorsOf])⟩
termination_by sizeOf es

theorem named_compileOperator {scope : Scope κ} {source p : Plan κ ρ} {item : ValueType κ}
    {op : SequenceOperator} {arguments : List Expr} {known : List String}
    (ho : ∃ k ∈ known, equalsIgnoringAsciiCase op.name k = true)
    (hs : Named source.selectors known) (ha : Expr.selectorsOf arguments ⊆ known)
    (h : compileOperator S root scope source item op arguments = .ok p) :
    Named p.selectors known := by
  unfold compileOperator at h
  split at h
  · split at h
    · cases h
      exact named_cons.mpr ⟨ho, hs⟩
    · cases h
  · rename_i x body
    split at h
    · cases h
    · simp only [bind_eq_ok] at h
      obtain ⟨_, _, b, hb, h⟩ := h
      have inside := (named_compileIn hb).mono fun n hn =>
        ha (by simpa [Expr.selectorsOf, Expr.selectors] using hn)
      exact named_ofLambda ho hs inside h
  · rename_i argument _
    split at h
    · obtain ⟨count, hc, h⟩ := bind_eq_ok.mp h
      have inside := (named_compileIn hc).mono fun n hn =>
        ha (by simpa [Expr.selectorsOf] using hn)
      exact named_ofCount ho hs inside h
    · cases h
  · cases h
termination_by sizeOf arguments

end

/-- A plan selects nothing that its query does not name. -/
theorem named_compile {e : Expr} {p : Plan κ ρ} (h : compile S root e = .ok p) :
    Named p.selectors e.selectors := by
  obtain ⟨_, _, h⟩ := bind_eq_ok.mp h
  exact named_compileIn h

end Parts

end Plan

end CommitQuery
