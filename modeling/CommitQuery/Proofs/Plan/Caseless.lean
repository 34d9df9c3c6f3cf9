-- Queries that differ in the case of the names of members and methods only. Members, methods
-- and operators of sequences are looked up in one way each, and none of them sees the case
-- of ASCII letters. The names of parameters and of the root, and texts, stay as they are.
import CommitQuery.Proofs.Plan.Nameless
import CommitQuery.Proofs.Text.Class
import CommitQuery.Query.ContentSearch

namespace CommitQuery

open Query Text

/-! ## Names in small letters -/

namespace Query

mutual

/-- A query with the names of its members and methods in small letters. -/
def Expr.caseless : Expr → Expr
  | .name s => .name s
  | .text s => .text s
  | .number n => .number n
  | .member target field => .member target.caseless (asciiLowercase field)
  | .call target method arguments =>
    .call target.caseless (asciiLowercase method) (allCaseless arguments)
  | .lambda x body => .lambda x body.caseless
  | .binary left op right => .binary left.caseless op right.caseless

def Expr.allCaseless : List Expr → List Expr
  | [] => []
  | e :: more => e.caseless :: allCaseless more

end

theorem Expr.isLambda_caseless (e : Expr) : e.caseless.isLambda = e.isLambda := by
  cases e <;> rfl

namespace ContentSearch

theorem linesRead?_asciiLowercase (method : String) :
    linesRead? (asciiLowercase method) = linesRead? method := by
  rw [linesRead?, asciiLowercase_asciiLowercase, linesRead?]

theorem ofCall?_caseless (method : String) (arguments : List Expr) :
    ofCall? (asciiLowercase method) (Expr.allCaseless arguments) = ofCall? method arguments := by
  unfold ofCall?
  rw [linesRead?_asciiLowercase]
  cases linesRead? method with
  | none => rfl
  | some kinds =>
    cases arguments with
    | nil => rfl
    | cons e more => cases e <;> rfl

mutual

/-- What a query searches for does not depend on the case of names. -/
theorem find?_caseless (e : Expr) : find? e.caseless = find? e := by
  cases e with
  | name s | text s | number n => rfl
  | member target field => exact find?_caseless target
  | call target method arguments =>
    simp only [Expr.caseless, find?, ofCall?_caseless, find?_caseless target,
      findIn?_allCaseless arguments]
  | lambda x body => exact find?_caseless body
  | binary left op right =>
    simp only [Expr.caseless, find?, find?_caseless left, find?_caseless right]

theorem findIn?_allCaseless (es : List Expr) : findIn? (Expr.allCaseless es) = findIn? es := by
  cases es with
  | nil => rfl
  | cons e more =>
    simp only [Expr.allCaseless, findIn?, find?_caseless e, findIn?_allCaseless more]

end

end ContentSearch

end Query

/-! ## Look-up -/

variable {κ ρ : Type} (S : Schema κ ρ)

theorem SequenceOperator.ofName?_asciiLowercase (name : String) :
    ofName? (asciiLowercase name) = ofName? name := by
  simp only [ofName?, equalsIgnoringAsciiCase_asciiLowercase]

theorem Schema.findMember?_asciiLowercase (type : ValueType κ) (name : String) :
    S.findMember? type (asciiLowercase name) = S.findMember? type name := by
  simp only [findMember?, equalsIgnoringAsciiCase_asciiLowercase]

theorem Schema.findMethods_asciiLowercase (type : ValueType κ) (name : String) (arity : Nat) :
    S.findMethods type (asciiLowercase name) arity = S.findMethods type name arity := by
  simp only [findMethods, equalsIgnoringAsciiCase_asciiLowercase]

/-! ## Results -/

/-- An error with the name that was not found in small letters. -/
def QueryError.caseless : QueryError → QueryError
  | .memberNotFound member typeName => .memberNotFound (asciiLowercase member) typeName
  | .methodNotFound method typeName => .methodNotFound (asciiLowercase method) typeName
  | e => e

theorem QueryError.ctorIdx_caseless (e : QueryError) : e.caseless.ctorIdx = e.ctorIdx := by
  cases e <;> rfl

/-- Two results are the same, or two errors that differ in the case of a name only. -/
def SameInAnyCase {α : Type} (x y : Except QueryError α) : Prop :=
  x.mapError QueryError.caseless = y.mapError QueryError.caseless

namespace SameInAnyCase

variable {α β : Type} {x y : Except QueryError α}

theorem ok_or_error (h : SameInAnyCase x y) : (∃ a, x = .ok a ∧ y = .ok a) ∨
    ∃ bad bad', x = .error bad ∧ y = .error bad' ∧ bad.caseless = bad'.caseless := by
  cases x with
  | ok a =>
    cases y with
    | ok b => exact .inl ⟨a, rfl, congrArg Except.ok (Except.ok.inj h).symm⟩
    | error bad' => cases h
  | error bad =>
    cases y with
    | ok b => cases h
    | error bad' => exact .inr ⟨bad, bad', rfl, rfl, Except.error.inj h⟩

theorem bind {f g : α → Except QueryError β} (h : SameInAnyCase x y)
    (hf : ∀ a, SameInAnyCase (f a) (g a)) : SameInAnyCase (x >>= f) (y >>= g) := by
  rcases h.ok_or_error with ⟨a, rfl, rfl⟩ | ⟨bad, bad', rfl, rfl, same⟩
  · exact hf a
  · exact congrArg Except.error same

end SameInAnyCase

/-! ## Compilation -/

namespace Plan

theorem ofMember_caseless (target : Plan κ ρ) (field : String) :
    SameInAnyCase (ofMember S target (asciiLowercase field)) (ofMember S target field) := by
  unfold ofMember
  rw [Schema.findMember?_asciiLowercase]
  cases S.findMember? (target.type S) field with
  | some m => rfl
  | none =>
    refine congrArg (fun name => Except.error (QueryError.memberNotFound name _)) ?_
    exact asciiLowercase_asciiLowercase field

theorem methodNotFound_caseless {α : Type} (name typeName : String) :
    SameInAnyCase (.error (.methodNotFound (asciiLowercase name) typeName) : Except QueryError α)
      (.error (.methodNotFound name typeName)) :=
  congrArg (fun name => Except.error (QueryError.methodNotFound name typeName))
    (asciiLowercase_asciiLowercase name)

theorem requireValue_caseless (place : LambdaPlace) (e : Expr) :
    requireValue place e.caseless = requireValue place e := by
  rw [requireValue, requireValue, e.isLambda_caseless]

variable [DecidableEq κ] (root : Root κ ρ)

theorem ofCall_caseless (target : Plan κ ρ) (name : String) (arguments : List (Plan κ ρ)) :
    SameInAnyCase (ofCall S target (asciiLowercase name) arguments)
      (ofCall S target name arguments) := by
  unfold ofCall
  rw [Schema.findMethods_asciiLowercase]
  cases S.findMethods (target.type S) name arguments.length with
  | nil => exact methodNotFound_caseless name _
  | cons first more => rfl

mutual

/-- A part of a query has the plan of the part in small letters, or the same error but for
the case of a name. -/
theorem compileIn_caseless (scope : Scope κ) (element : Option (ValueType κ)) (e : Expr) :
    SameInAnyCase (compileIn S root scope element e.caseless)
      (compileIn S root scope element e) := by
  cases e with
  | name s | text s | number n => rfl
  | member target field =>
    simp only [Expr.caseless, compileIn, requireValue_caseless]
    refine .bind rfl fun _ => ?_
    exact (compileIn_caseless scope element target).bind fun p => ofMember_caseless S p field
  | call target method arguments =>
    simp only [Expr.caseless, compileIn, requireValue_caseless,
      SequenceOperator.ofName?_asciiLowercase]
    refine .bind rfl fun _ => (compileIn_caseless scope element target).bind fun source => ?_
    cases source.type S with
    | sequence item =>
      cases SequenceOperator.ofName? method with
      | none => exact methodNotFound_caseless method _
      | some op => exact compileOperator_caseless scope source item op arguments
    | _ =>
      exact (compileAll_caseless scope element arguments).bind fun ps =>
        ofCall_caseless S source method ps
  | lambda x body =>
    simp only [Expr.caseless, compileIn, requireValue_caseless]
    refine .bind rfl fun _ => ?_
    exact (compileIn_caseless _ element body).bind fun _ => rfl
  | binary left op right =>
    simp only [Expr.caseless, compileIn, requireValue_caseless]
    refine .bind rfl fun _ => (compileIn_caseless scope element left).bind fun l => ?_
    refine .bind rfl fun _ => (compileIn_caseless scope element right).bind fun r => ?_
    rfl

theorem compileAll_caseless (scope : Scope κ) (element : Option (ValueType κ)) (es : List Expr) :
    SameInAnyCase (compileAll S root scope element (Expr.allCaseless es))
      (compileAll S root scope element es) := by
  cases es with
  | nil => rfl
  | cons e more =>
    simp only [Expr.allCaseless, compileAll]
    refine (compileIn_caseless scope element e).bind fun p => ?_
    exact (compileAll_caseless scope element more).bind fun _ => rfl

theorem compileOperator_caseless (scope : Scope κ) (source : Plan κ ρ) (item : ValueType κ)
    (op : SequenceOperator) (es : List Expr) :
    SameInAnyCase (compileOperator S root scope source item op (Expr.allCaseless es))
      (compileOperator S root scope source item op es) := by
  match es with
  | [] => rfl
  | [e] =>
    cases e with
    | lambda x body =>
      cases op with
      | slice s => rfl
      | _ =>
        simp only [Expr.allCaseless, Expr.caseless, compileOperator, requireValue_caseless]
        refine .bind rfl fun _ => ?_
        exact (compileIn_caseless _ (some item) body).bind fun _ => rfl
    | _ =>
      rw [Expr.allCaseless, Expr.allCaseless, compileOperator_single rfl,
        compileOperator_single rfl]
      cases op with
      | slice s => exact (compileIn_caseless scope (some item) _).bind fun _ => rfl
      | _ => rfl
  | e :: e' :: more =>
    rw [Expr.allCaseless, Expr.allCaseless, compileOperator_many, compileOperator_many]
    rfl

end

theorem compile_caseless (e : Expr) :
    SameInAnyCase (compile S root e.caseless) (compile S root e) := by
  simp only [compile, requireValue_caseless]
  exact .bind rfl fun _ => compileIn_caseless S root [] none e

/-! ## The law -/

/-- Two queries that differ in the case of ASCII letters in the names of members and methods
only, over any schema and root: they have one plan, or an error of one kind, and the errors
differ in the case of a name only. Their runs come to the same, and they search for the same
text. -/
theorem names_are_read_in_any_case (e e' : Expr) (h : e.caseless = e'.caseless) :
    ((∃ p, compile S root e = .ok p ∧ compile S root e' = .ok p) ∨
        ∃ bad bad', compile S root e = .error bad ∧ compile S root e' = .error bad' ∧
          bad.ctorIdx = bad'.ctorIdx ∧ bad.caseless = bad'.caseless) ∧
      SameInAnyCase (compile S root e >>= execute S) (compile S root e' >>= execute S) ∧
      ContentSearch.find? e = ContentSearch.find? e' := by
  have same : SameInAnyCase (compile S root e) (compile S root e') :=
    (compile_caseless S root e).symm.trans (h ▸ compile_caseless S root e')
  refine ⟨?_, same.bind fun _ => rfl, ?_⟩
  · rcases same.ok_or_error with one | ⟨bad, bad', hbad, hbad', alike⟩
    · exact .inl one
    · refine .inr ⟨bad, bad', hbad, hbad', ?_, alike⟩
      rw [← bad.ctorIdx_caseless, alike, bad'.ctorIdx_caseless]
  · rw [← ContentSearch.find?_caseless, h, ContentSearch.find?_caseless]

/-- The added lines of a commit, asked for in the usual case and in another one. -/
def contentQuery (operator member method : String) : Expr :=
  .call (.name "Commits") operator [.lambda "c"
    (.call (.member (.name "c") member) method [.text "TODO"])]

theorem a_content_query_is_read_in_small_letters :
    let usual := contentQuery "Where" "Diff" "AddedContains"
    let other := contentQuery "WHERE" "diff" "addedContains"
    usual.caseless = other.caseless ∧
      (∃ p, compile Extension.nothing.schema (.ofCommits [.blank]) usual = .ok p ∧
        compile Extension.nothing.schema (.ofCommits [.blank]) other = .ok p) ∧
      ContentSearch.find? usual = some ⟨"TODO", true, false⟩ ∧
      ContentSearch.find? other = some ⟨"TODO", true, false⟩ := by
  intro usual other
  have same : usual.caseless = other.caseless := by cbv
  have compiles : ∃ p, compile Extension.nothing.schema (.ofCommits [.blank]) usual = .ok p :=
    ⟨_, by cbv⟩
  have searches : ContentSearch.find? usual = some ⟨"TODO", true, false⟩ := by decide +kernel
  obtain ⟨p, hp⟩ := compiles
  obtain ⟨plans, -, search⟩ :=
    names_are_read_in_any_case Extension.nothing.schema (.ofCommits [.blank]) usual other same
  refine ⟨same, ?_, searches, search ▸ searches⟩
  rcases plans with one | ⟨bad, _, failed, _⟩
  · exact one
  · rw [hp] at failed
    cases failed

end Plan

end CommitQuery
