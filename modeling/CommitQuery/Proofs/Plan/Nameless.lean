-- Plans without the names of their parameters. The slots say which parameter is meant, so
-- a run does not change but for the names that its failures tell. Queries that differ in
-- names of parameters only have the same plan without names, or fail to compile alike.
import CommitQuery.Proofs.Plan.Lexical
import CommitQuery.Proofs.Query.Renaming

namespace CommitQuery

open Query

variable {κ ρ : Type}

def Binder.nameless (b : Binder κ) : Binder κ := { b with name := "" }

namespace Plan

mutual

/-- A plan without the names of its parameters. -/
def nameless : Plan κ ρ → Plan κ ρ
  | .constant v => .constant v
  | .parameter b => .parameter b.nameless
  | .member target m => .member target.nameless m
  | .invoke target method arguments => .invoke target.nameless method (allNameless arguments)
  | .convert inner width => .convert inner.nameless width
  | .compare left op right => .compare left.nameless op right.nameless
  | .logical left op right => .logical left.nameless op right.nameless
  | .lambda b body => .lambda b.nameless body.nameless
  | .filter source b body => .filter source.nameless b.nameless body.nameless
  | .select source b body => .select source.nameless b.nameless body.nameless
  | .sort source descending b body => .sort source.nameless descending b.nameless body.nameless
  | .slice source s count => .slice source.nameless s count.nameless
  | .find source finder => .find source.nameless finder
  | .findWhere source finder b body => .findWhere source.nameless finder b.nameless body.nameless

def allNameless : List (Plan κ ρ) → List (Plan κ ρ)
  | [] => []
  | p :: more => p.nameless :: allNameless more

end

theorem allNameless_eq_map (ps : List (Plan κ ρ)) : allNameless ps = ps.map nameless := by
  induction ps with
  | nil => rfl
  | cons p more ih => exact congrArg (p.nameless :: ·) ih

variable (S : Schema κ ρ)

theorem type_nameless (p : Plan κ ρ) : p.nameless.type S = p.type S := by
  cases p with
  | filter source _ _ => exact type_nameless source
  | sort source _ _ _ => exact type_nameless source
  | slice source _ _ => exact type_nameless source
  | select _ _ body => exact congrArg ValueType.sequence (type_nameless body)
  | lambda b body => exact congrArg (ValueType.function b.type) (type_nameless body)
  | find source finder =>
    exact congrArg (fun t => finder.type t.element) (type_nameless source)
  | findWhere source finder _ _ =>
    exact congrArg (fun t => finder.type t.element) (type_nameless source)
  | _ => rfl
termination_by structural p

/-! ## The parts of the compiler -/

section Parts

theorem nameless_ofMember (target : Plan κ ρ) (field : String) :
    (ofMember S target field).map nameless = ofMember S target.nameless field := by
  unfold ofMember
  rw [type_nameless]
  cases S.findMember? (target.type S) field <;> rfl

variable [DecidableEq κ]

theorem nameless_toWidth (p : Plan κ ρ) (w : Width) :
    (p.toWidth S w).nameless = p.nameless.toWidth S w := by
  unfold toWidth
  rw [type_nameless]
  split <;> rfl

theorem nameless_widen (left right : Plan κ ρ) :
    widen S left.nameless right.nameless =
      ((widen S left right).1.nameless, (widen S left right).2.nameless) := by
  unfold widen
  rw [type_nameless, type_nameless]
  split <;> simp only [nameless_toWidth]

theorem nameless_ofOperator (left : Plan κ ρ) (op : Operator) (right : Plan κ ρ) :
    (ofOperator S left op right).map nameless = ofOperator S left.nameless op right.nameless := by
  cases op with
  | connect c =>
    simp only [ofOperator, type_nameless]
    split <;> rfl
  | compare c =>
    simp only [ofOperator, nameless_widen, type_nameless]
    split <;> rfl

theorem nameless_coerce (a : Plan κ ρ) (type : ValueType κ) :
    (coerce S a type).nameless = coerce S a.nameless type := by
  unfold coerce
  rw [type_nameless]
  split
  · cases type <;> simp only [nameless_toWidth]
  · rfl

theorem nameless_ofCall (target : Plan κ ρ) (name : String) (arguments : List (Plan κ ρ)) :
    (ofCall S target name arguments).map nameless =
      ofCall S target.nameless name (arguments.map nameless) := by
  have types : (arguments.map nameless).map (·.type S) = arguments.map (·.type S) := by
    rw [List.map_map]
    exact List.map_congr_left fun a _ => type_nameless S a
  unfold ofCall
  rw [type_nameless, types, List.length_map]
  split
  · rfl
  · split
    · rename_i m _
      have passed : allNameless (arguments.zipWith (coerce S) m.parameters) =
          (arguments.map nameless).zipWith (coerce S) m.parameters := by
        rw [allNameless_eq_map, List.map_zipWith, List.zipWith_map_left]
        simp only [nameless_coerce]
      exact congrArg (fun as => Except.ok (invoke target.nameless m as)) passed
    · rfl

theorem nameless_ofLambda (source : Plan κ ρ) (item : ValueType κ) (op : SequenceOperator)
    (b : Binder κ) (body : Plan κ ρ) :
    (ofLambda S source item op b body).map nameless =
      ofLambda S source.nameless item op b.nameless body.nameless := by
  cases op with
  | select => rfl
  | slice s => rfl
  | _ =>
    simp only [ofLambda, type_nameless]
    split <;> rfl

theorem nameless_ofCount (source : Plan κ ρ) (item : ValueType κ) (s : Slice)
    (count : Plan κ ρ) :
    (ofCount S source item s count).map nameless =
      ofCount S source.nameless item s count.nameless := by
  unfold ofCount
  rw [type_nameless, ← nameless_toWidth]
  split <;> rfl

end Parts

end Plan

/-! ## Compilation -/

/-- Two walks of one shape come to the same, as far as it is looked at, if their steps do. -/
theorem map_bind_congr {ε α β γ δ : Type} {x x' : Except ε α} {f f' : α → Except ε β}
    {g : α → γ} {h : β → δ} (hx : x.map g = x'.map g)
    (hf : ∀ a a', g a = g a' → (f a).map h = (f' a').map h) :
    (x >>= f).map h = (x' >>= f').map h := by
  cases x with
  | error e =>
    cases x' with
    | error e' =>
      cases hx
      rfl
    | ok a' => cases hx
  | ok a =>
    cases x' with
    | error e' => cases hx
    | ok a' => exact hf a a' (Except.ok.inj hx)

/-- Scopes of two queries whose parameters are pairs: each binds its own name, to the same
slot and the same type. -/
inductive Corresponds : List (String × String) → Scope κ → Scope κ → Prop
  | nil : Corresponds [] [] []
  | bind {pairs : List (String × String)} {scope scope' : Scope κ} (x y : String)
      (type : ValueType κ) (h : Corresponds pairs scope scope') :
      Corresponds ((x, y) :: pairs) (scope.bind x type :: scope) (scope'.bind y type :: scope')

namespace Corresponds

variable {pairs : List (String × String)} {scope scope' : Scope κ}

theorem nameless_bind (h : Corresponds pairs scope scope') (x y : String) (type : ValueType κ) :
    (scope.bind x type).nameless = (scope'.bind y type).nameless := by
  have same : scope.length = scope'.length := by
    induction h with
    | nil => rfl
    | bind x y type _ ih => simp [ih]
  simp only [Scope.bind, Binder.nameless, same]

/-- Names that mean the same are the same parameter, or no parameter and one name. -/
theorem lookup? (h : Corresponds pairs scope scope') {s t : String} (hst : Paired pairs s t) :
    (∃ b b', scope.lookup? s = some b ∧ scope'.lookup? t = some b' ∧
      b.nameless = b'.nameless) ∨ (scope.lookup? s = none ∧ scope'.lookup? t = none ∧ s = t) := by
  induction h with
  | nil =>
    cases hst
    exact .inr ⟨rfl, rfl, rfl⟩
  | @bind pairs scope scope' x y type h ih =>
    cases hst with
    | bound =>
      refine .inl ⟨scope.bind s type, scope'.bind t type, ?_, ?_, h.nameless_bind s t type⟩
      · simp [Scope.lookup?, Scope.bind]
      · simp [Scope.lookup?, Scope.bind]
    | outer hx hy hst =>
      have left : Scope.lookup? (scope.bind x type :: scope) s = scope.lookup? s := by
        simp [Scope.lookup?, Scope.bind, hx]
      have right : Scope.lookup? (scope'.bind y type :: scope') t = scope'.lookup? t := by
        simp [Scope.lookup?, Scope.bind, hy]
      rw [left, right]
      exact ih hst

end Corresponds

namespace Plan

variable {S : Schema κ ρ} {root : Root κ ρ}

theorem nameless_ofName {pairs : List (String × String)} {scope scope' : Scope κ} {s t : String}
    (hs : Corresponds pairs scope scope') (h : Paired pairs s t) :
    (ofName root scope s).map nameless = (ofName root scope' t).map nameless := by
  unfold ofName
  rcases hs.lookup? h with ⟨b, b', hb, hb', same⟩ | ⟨hb, hb', rfl⟩
  · rw [hb, hb']
    exact congrArg (fun b => Except.ok (parameter b)) same
  · rw [hb, hb']

theorem requireValue_eq {pairs : List (String × String)} {e e' : Expr} (h : Alike pairs e e')
    (place : LambdaPlace) : requireValue place e = requireValue place e' := by
  rw [requireValue, requireValue, h.isLambda_eq]

variable [DecidableEq κ]

/-- An argument that is no lambda can only be a count. -/
theorem compileOperator_single {scope : Scope κ} {source : Plan κ ρ} {item : ValueType κ}
    {op : SequenceOperator} {e : Expr} (value : e.isLambda = false) :
    compileOperator S root scope source item op [e] =
      match op with
      | .slice s => do ofCount S source item s (← compileIn S root scope (some item) e)
      | _ => badArgument S item op := by
  cases e with
  | lambda x body => cases value
  | _ => cases op <;> simp only [compileOperator]

theorem compileOperator_many {scope : Scope κ} {source : Plan κ ρ} {item : ValueType κ}
    {op : SequenceOperator} (e e' : Expr) (es : List Expr) :
    compileOperator S root scope source item op (e :: e' :: es) = badArgument S item op := by
  cases e <;> rfl

variable (S root)

theorem nameless_count {scope scope' : Scope κ} {source source' : Plan κ ρ} {item : ValueType κ}
    {e e' : Expr} (value : e.isLambda = false) (value' : e'.isLambda = false)
    (same : source.nameless = source'.nameless)
    (he : (compileIn S root scope (some item) e).map nameless =
      (compileIn S root scope' (some item) e').map nameless) (op : SequenceOperator) :
    (compileOperator S root scope source item op [e]).map nameless =
      (compileOperator S root scope' source' item op [e']).map nameless := by
  rw [compileOperator_single value, compileOperator_single value']
  cases op with
  | slice s =>
    refine map_bind_congr he fun p p' samec => ?_
    rw [nameless_ofCount, nameless_ofCount, same, samec]
  | _ => rfl

mutual

/-- Alike queries, in scopes that bind their parameters, have the same plan but for the names
of parameters, or the same error. -/
theorem nameless_compileIn {pairs : List (String × String)} {scope scope' : Scope κ}
    {e e' : Expr} (hs : Corresponds pairs scope scope') (element : Option (ValueType κ)) :
    Alike pairs e e' → (compileIn S root scope element e).map nameless =
      (compileIn S root scope' element e').map nameless
  | .name hst => nameless_ofName hs hst
  | .text s => rfl
  | .number n => rfl
  | .member ht field => by
    simp only [compileIn, requireValue_eq ht]
    refine map_bind_congr (g := id) rfl fun _ _ _ => ?_
    refine map_bind_congr (nameless_compileIn hs element ht) fun p p' same => ?_
    rw [nameless_ofMember, nameless_ofMember, same]
  | .call ht method ha => by
    simp only [compileIn, requireValue_eq ht]
    refine map_bind_congr (g := id) rfl fun _ _ _ => ?_
    refine map_bind_congr (nameless_compileIn hs element ht) fun p p' same => ?_
    have types : p.type S = p'.type S := by
      rw [← type_nameless, same, type_nameless]
    rw [types]
    cases p'.type S with
    | sequence item =>
      cases SequenceOperator.ofName? method with
      | none => rfl
      | some op => exact nameless_compileOperator hs same item op ha
    | _ =>
      refine map_bind_congr (nameless_compileAll hs element ha) fun ps ps' sames => ?_
      rw [nameless_ofCall, nameless_ofCall, same, sames]
  | .lambda x y hb => by
    simp only [compileIn, requireValue_eq hb]
    refine map_bind_congr (g := id) rfl fun _ _ _ => ?_
    have inside := hs.bind x y (element.getD root.element)
    refine map_bind_congr (nameless_compileIn inside element hb) fun p p' same => ?_
    have binders := hs.nameless_bind x y (element.getD root.element)
    exact congrArg Except.ok (congrArg₂ Plan.lambda binders same)
  | .binary hl op hr => by
    simp only [compileIn, requireValue_eq hl, requireValue_eq hr]
    refine map_bind_congr (g := id) rfl fun _ _ _ => ?_
    refine map_bind_congr (nameless_compileIn hs element hl) fun l l' samel => ?_
    refine map_bind_congr (g := id) rfl fun _ _ _ => ?_
    refine map_bind_congr (nameless_compileIn hs element hr) fun r r' samer => ?_
    rw [nameless_ofOperator, nameless_ofOperator, samel, samer]

theorem nameless_compileAll {pairs : List (String × String)} {scope scope' : Scope κ}
    {es es' : List Expr} (hs : Corresponds pairs scope scope') (element : Option (ValueType κ)) :
    AllAlike pairs es es' → (compileAll S root scope element es).map (List.map nameless) =
      (compileAll S root scope' element es').map (List.map nameless)
  | .nil => rfl
  | .cons he hes => by
    simp only [compileAll]
    refine map_bind_congr (nameless_compileIn hs element he) fun p p' same => ?_
    refine map_bind_congr (nameless_compileAll hs element hes) fun ps ps' sames => ?_
    exact congrArg Except.ok (congrArg₂ List.cons same sames)

theorem nameless_compileOperator {pairs : List (String × String)} {scope scope' : Scope κ}
    {source source' : Plan κ ρ} {es es' : List Expr} (hs : Corresponds pairs scope scope')
    (same : source.nameless = source'.nameless) (item : ValueType κ) (op : SequenceOperator) :
    AllAlike pairs es es' → (compileOperator S root scope source item op es).map nameless =
      (compileOperator S root scope' source' item op es').map nameless
  | .nil => by
    cases op with
    | find finder =>
      simp only [compileOperator]
      exact congrArg (fun p => Except.ok (find p finder)) same
    | _ => simp only [compileOperator]
  | .cons _ (.cons _ _) => by rw [compileOperator_many, compileOperator_many]
  | .cons (.lambda x y hb) .nil => by
    cases op with
    | slice s => simp only [compileOperator]
    | _ =>
      simp only [compileOperator, requireValue_eq hb]
      refine map_bind_congr (g := id) rfl fun _ _ _ => ?_
      have inside := hs.bind x y item
      refine map_bind_congr (nameless_compileIn inside (some item) hb) fun p p' sameb => ?_
      rw [nameless_ofLambda, nameless_ofLambda, same, hs.nameless_bind x y, sameb]
  | .cons he@(.name _) .nil | .cons he@(.text _) .nil | .cons he@(.number _) .nil
  | .cons he@(.member _ _) .nil | .cons he@(.call _ _ _) .nil | .cons he@(.binary _ _ _) .nil =>
    nameless_count S root rfl rfl same (nameless_compileIn hs (some item) he) op

end

theorem nameless_compile {e e' : Expr} (h : Alike [] e e') :
    (compile S root e).map nameless = (compile S root e').map nameless := by
  rw [compile, compile, requireValue_eq h]
  refine map_bind_congr (g := id) rfl fun _ _ _ => ?_
  exact nameless_compileIn S root .nil none h

end Plan

/-! ## Runs -/

/-- A failure without the name of a parameter. -/
def RuntimeError.nameless : RuntimeError → RuntimeError
  | .unboundParameter _ => .unboundParameter ""
  | .lambdaAsValue _ => .lambdaAsValue ""
  | e => e

namespace Run

variable {α β : Type}

/-- A run whose failures name no parameter. -/
def nameless (m : Run κ ρ α) : Run κ ρ α := fun stack =>
  ((m.run stack).1.mapError RuntimeError.nameless, (m.run stack).2)

theorem nameless_pure (a : α) : nameless (pure a : Run κ ρ α) = pure a := rfl

theorem nameless_fail (e : RuntimeError) :
    nameless (fail e : Run κ ρ α) = fail e.nameless := rfl

theorem nameless_slot? (slot : Nat) : nameless (slot? slot : Run κ ρ _) = slot? slot := rfl

theorem nameless_bind (m : Run κ ρ α) (f : α → Run κ ρ β) :
    nameless (m >>= f) = nameless m >>= fun a => nameless (f a) := by
  funext stack
  rcases hm : m.run stack with ⟨result, after⟩
  cases result with
  | ok a =>
    have first : (nameless m).run stack = (.ok a, after) := by
      show ((m.run stack).1.mapError _, (m.run stack).2) = _
      rw [hm]
      rfl
    show (((m >>= f).run stack).1.mapError _, ((m >>= f).run stack).2) = _
    rw [run_bind_ok hm]
    exact (run_bind_ok first fun a => nameless (f a)).symm
  | error e =>
    have first : (nameless m).run stack = (.error e.nameless, after) := by
      show ((m.run stack).1.mapError _, (m.run stack).2) = _
      rw [hm]
      rfl
    show (((m >>= f).run stack).1.mapError _, ((m >>= f).run stack).2) = _
    rw [run_bind_error hm]
    exact (run_bind_error first fun a => nameless (f a)).symm

theorem nameless_withArgument (slot : Nat) (v : Value κ ρ) (body : Run κ ρ α) :
    nameless (withArgument slot v body) = withArgument slot v (nameless body) := rfl

theorem nameless_keep (test : β → Run κ ρ Bool) (items : List β) :
    nameless (keep test items) = keep (fun a => nameless (test a)) items := by
  induction items with
  | nil => rfl
  | cons a rest ih => simp only [keep, nameless_bind, nameless_pure, ih]

theorem nameless_mapItems (f : α → Run κ ρ β) (items : List α) :
    nameless (mapItems f items) = mapItems (fun a => nameless (f a)) items := by
  induction items with
  | nil => rfl
  | cons a rest ih => simp only [mapItems, nameless_bind, nameless_pure, ih]

theorem nameless_findItem (test : β → Run κ ρ Bool) (items : List β) :
    nameless (findItem test items) = findItem (fun a => nameless (test a)) items := by
  induction items with
  | nil => rfl
  | cons a rest ih =>
    simp only [findItem, nameless_bind]
    refine bind_congr fun found => ?_
    cases found with
    | true => rfl
    | false => exact ih

end Run

namespace Plan

variable {S : Schema κ ρ}

open Run (nameless_bind nameless_pure nameless_fail nameless_withArgument)

theorem nameless_itemsFor (operator : String) (v : Value κ ρ) :
    Run.nameless (itemsFor S operator v) = itemsFor S operator v := by
  cases v <;> rfl

theorem nameless_countOf (v : Value κ ρ) : Run.nameless (countOf S v) = countOf S v := by
  unfold countOf
  cases v.toInt? <;> rfl

theorem nameless_answerAll (finder : Finder) (items : List (Value κ ρ)) :
    Run.nameless (answerAll finder items) = answerAll finder items := by
  cases finder <;> cases items <;> rfl

theorem nameless_answerWhere (finder : Finder) (test : Value κ ρ → Run κ ρ Bool)
    (items : List (Value κ ρ)) :
    Run.nameless (answerWhere finder test items) =
      answerWhere finder (fun a => Run.nameless (test a)) items := by
  cases finder with
  | count => simp only [answerWhere, nameless_bind, nameless_pure, Run.nameless_keep]
  | any => simp only [answerWhere, nameless_bind, Run.nameless_findItem, answerFound, nameless_pure]
  | _ =>
    simp only [answerWhere, nameless_bind, Run.nameless_findItem]
    refine bind_congr fun found => ?_
    cases found <;> rfl

mutual

/-- A plan without names runs as the plan does, but for the names that failures tell. -/
theorem evaluate_nameless (p : Plan κ ρ) :
    evaluate S p.nameless = Run.nameless (evaluate S p) := by
  cases p with
  | constant v => rfl
  | parameter b =>
    simp only [nameless, evaluate, nameless_bind, Run.nameless_slot?]
    refine bind_congr fun found => ?_
    cases found <;> rfl
  | member target m =>
    simp only [nameless, evaluate, nameless_bind, evaluate_nameless target]
    refine bind_congr fun v => ?_
    split <;> rfl
  | invoke target method arguments =>
    simp only [nameless, evaluate, nameless_bind, evaluate_nameless target]
    refine bind_congr fun v => ?_
    split
    · rfl
    · rw [nameless_bind, evaluateAll_nameless arguments]
      refine bind_congr fun values => ?_
      cases method.call v values <;> rfl
  | convert inner width =>
    simp only [nameless, evaluate, nameless_bind, nameless_pure, evaluate_nameless inner]
  | compare left op right =>
    simp only [nameless, evaluate, nameless_bind, nameless_pure, evaluate_nameless left,
      evaluate_nameless right]
  | logical left op right =>
    simp only [nameless, evaluate, nameless_bind, evaluate_nameless left]
    refine bind_congr fun l => ?_
    cases op with
    | and =>
      cases truth l with
      | true => simp only [nameless_bind, nameless_pure, evaluate_nameless right]
      | false => rfl
    | or =>
      cases truth l with
      | true => rfl
      | false => simp only [nameless_bind, nameless_pure, evaluate_nameless right]
  | lambda b body => rfl
  | filter source b body =>
    simp only [nameless, evaluate, nameless_bind, nameless_pure, evaluate_nameless source,
      nameless_itemsFor, type_nameless, Run.nameless_keep, nameless_withArgument,
      evaluate_nameless body, Binder.nameless]
  | select source b body =>
    simp only [nameless, evaluate, nameless_bind, nameless_pure, evaluate_nameless source,
      nameless_itemsFor, type_nameless, Run.nameless_mapItems, nameless_withArgument,
      evaluate_nameless body, Binder.nameless]
  | sort source descending b body =>
    simp only [nameless, evaluate, nameless_bind, nameless_pure, evaluate_nameless source,
      nameless_itemsFor, type_nameless, Run.nameless_mapItems, nameless_withArgument,
      evaluate_nameless body, Binder.nameless]
  | slice source s count =>
    simp only [nameless, evaluate, nameless_bind, nameless_pure, evaluate_nameless source,
      nameless_itemsFor, type_nameless, evaluate_nameless count, nameless_countOf]
  | find source finder =>
    simp only [nameless, evaluate, nameless_bind, evaluate_nameless source, nameless_itemsFor,
      nameless_answerAll]
  | findWhere source finder b body =>
    simp only [nameless, evaluate, nameless_bind, nameless_pure, evaluate_nameless source,
      nameless_itemsFor, nameless_answerWhere, nameless_withArgument, evaluate_nameless body,
      Binder.nameless]
termination_by structural p

theorem evaluateAll_nameless (ps : List (Plan κ ρ)) :
    evaluateAll S (allNameless ps) = Run.nameless (evaluateAll S ps) := by
  cases ps with
  | nil => rfl
  | cons p more =>
    simp only [allNameless, evaluateAll, nameless_bind, nameless_pure, evaluate_nameless p,
      evaluateAll_nameless more]
termination_by structural ps

end

/-- The value of a run does not depend on names. -/
theorem execute_nameless_eq_ok {p : Plan κ ρ} {v : Value κ ρ} :
    execute S p.nameless = .ok v ↔ execute S p = .ok v := by
  unfold execute
  rw [evaluate_nameless]
  show (match ((((evaluate S p).run []).1.mapError RuntimeError.nameless),
    ((evaluate S p).run []).2) with | (.ok v, _) => _ | (.error e, _) => _) = _ ↔ _
  rcases (evaluate S p).run [] with ⟨result, after⟩
  cases result with
  | ok a => rfl
  | error e => exact ⟨nofun, nofun⟩

/-! ## The law -/

/-- The query `shadowing` with another name for its outer parameter. -/
def renamedOutside : Expr :=
  .call (.name "Commits") "Count" [.lambda "y"
    (.call (.member (.member (.name "y") "Diff") "Files") "Any"
      [.lambda "x" (.member (.name "x") "IsBinary")])]

variable [DecidableEq κ]

/-- Any lambda of a query may call its parameter by any name that the query does not use for
one, with the uses of the parameter renamed along: the query has the same error as before, or
the same plan but for the stored names, and its run gives the same value, or both runs
fail. Even the name of the root will do where the query does not use it. -/
theorem a_parameter_may_have_any_fresh_name (S : Schema κ ρ) (root : Root κ ρ)
    (around : Context) (x y : String) (body : Expr)
    (fresh : y ∉ (around.fill (.lambda x body)).identifiers) :
    (compile S root (around.fill (.lambda x body))).map nameless =
        (compile S root (around.fill (.lambda y (body.rename x y)))).map nameless ∧
      ∀ p p', compile S root (around.fill (.lambda x body)) = .ok p →
        compile S root (around.fill (.lambda y (body.rename x y))) = .ok p' →
        ∀ v, execute S p = .ok v ↔ execute S p' = .ok v := by
  have same := nameless_compile S root (alike_fill around (fun s _ => .free s) fresh)
  refine ⟨same, fun p p' hp hp' v => ?_⟩
  rw [hp, hp'] at same
  rw [← execute_nameless_eq_ok, Except.ok.inj same, execute_nameless_eq_ok]

/-- The outer of two parameters of one name, where the inner one hides it. -/
theorem the_outer_parameter_may_be_renamed :
    "y" ∉ shadowing.identifiers ∧ shadowing ≠ renamedOutside ∧
      ∃ p p', compile Extension.nothing.schema (.ofCommits [.blank]) shadowing = .ok p ∧
        compile Extension.nothing.schema (.ofCommits [.blank]) renamedOutside = .ok p' ∧
        p.nameless = p'.nameless ∧ ∀ v, execute Extension.nothing.schema p = .ok v ↔
          execute Extension.nothing.schema p' = .ok v := by
  have fresh : "y" ∉ shadowing.identifiers := by decide
  obtain ⟨p, hp⟩ := compile_shadowing
  have hp' : ∃ p', compile Extension.nothing.schema (.ofCommits [.blank]) renamedOutside = .ok p' :=
    ⟨_, by cbv⟩
  obtain ⟨p', hp'⟩ := hp'
  obtain ⟨same, runs⟩ := a_parameter_may_have_any_fresh_name Extension.nothing.schema
    (.ofCommits [.blank]) (.argument (.name "Commits") "Count" [] .hole []) "x" "y"
    (.call (.member (.member (.name "x") "Diff") "Files") "Any"
      [.lambda "x" (.member (.name "x") "IsBinary")]) fresh
  refine ⟨fresh, by simp [shadowing, renamedOutside], p, p', hp, hp', ?_, runs p p' hp hp'⟩
  rw [show Context.fill _ _ = shadowing from rfl, hp] at same
  exact Except.ok.inj (same.trans (congrArg (Except.map nameless) hp'))

end Plan

end CommitQuery
