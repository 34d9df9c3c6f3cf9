-- The places of the parts of a query: the text in front of a part, and the lambdas around
-- it. Each lambda is an argument of a call, and the text in front of its parameter is what
-- completion goes back to.
import CommitQuery.Proofs.Plan.Compiled
import CommitQuery.Proofs.Prompt.Chain

namespace CommitQuery

open CommitQuery.Text CommitQuery.Query CommitQuery.Query.Expr

variable {κ ρ : Type}

namespace Query.Expr

/-- The text of a call up to one of its arguments. -/
def beforeArgument (target : Expr) (method : String) (earlier : List Expr) : List Char :=
  target.spelling ++ '.' :: method.toList ++ '(' :: earlier.flatMap (·.spelling ++ ", ".toList)

theorem spellings_append (earlier : List Expr) (a : Expr) (later : List Expr) :
    ∃ rest, spellings (earlier ++ a :: later) =
      earlier.flatMap (·.spelling ++ ", ".toList) ++ a.spelling ++ rest := by
  induction earlier with
  | nil =>
    cases later with
    | nil => exact ⟨[], (List.append_nil _).symm⟩
    | cons e more => exact ⟨", ".toList ++ spellings (e :: more), List.append_assoc ..⟩
  | cons e more ih =>
    obtain ⟨rest, same⟩ := ih
    have step : spellings (e :: (more ++ a :: later)) =
        e.spelling ++ ", ".toList ++ spellings (more ++ a :: later) := by
      cases more <;> rfl
    refine ⟨rest, ?_⟩
    rw [List.cons_append, step, same, List.flatMap_cons]
    simp only [List.append_assoc]

/-- A call starts with its text up to any argument, and that argument. -/
theorem argument_prefix (target : Expr) (method : String) (earlier : List Expr) (a : Expr)
    (later : List Expr) :
    target.beforeArgument method earlier ++ a.spelling <+:
      (Expr.call target method (earlier ++ a :: later)).spelling := by
  obtain ⟨rest, same⟩ := spellings_append earlier a later
  refine ⟨rest ++ [')'], ?_⟩
  rw [spelling, same, beforeArgument]
  simp only [List.append_assoc, List.cons_append]

theorem opens_beforeArgument (before : List Char) (target : Expr) (method : String)
    (earlier : List Expr) :
    Completion.Opens (before ++ target.beforeArgument method earlier) := by
  rcases List.eq_nil_or_concat earlier with rfl | ⟨more, e, rfl⟩
  · have last : before ++ target.beforeArgument method [] =
        before ++ (target.spelling ++ '.' :: method.toList) ++ ['('] := by
      simp [beforeArgument]
    rw [last]
    exact Completion.opens_append (.inl rfl) _
  · have last : before ++ target.beforeArgument method (more ++ [e]) =
        before ++ (target.beforeArgument method more ++ e.spelling ++ [',']) ++ [' '] := by
      simp [beforeArgument]
    rw [List.concat_eq_append, last]
    exact Completion.opens_append (.inr rfl) _

end Query.Expr

/-- A lambda around a part of a query: its parameter, the text in front of that, and the
target of the call whose argument the lambda is. -/
structure Opening (κ : Type) where
  binder : Binder κ
  before : List Char
  target : Expr

/-- The parameters of the lambdas around a part. -/
def scopeOf (openings : List (Opening κ)) : Scope κ := openings.map (·.binder)

theorem lookup?_scopeOf_cons (o : Opening κ) (outer : List (Opening κ)) (x : String) :
    (scopeOf (o :: outer)).lookup? x =
      if o.binder.name = x then some o.binder else (scopeOf outer).lookup? x := by
  unfold scopeOf Scope.lookup?
  rw [List.map_cons, List.find?_cons]
  by_cases same : o.binder.name = x
  · simp [same]
  · simp [same]

/-- Where the parts of a query stand: the text in front of each, the lambdas around it, the
innermost first, and the type of the items of the operator that it is an argument of. -/
inductive Stands [DecidableEq κ] (S : Schema κ ρ) (root : Root κ ρ) (query : Expr) :
    List Char → List (Opening κ) → Option (ValueType κ) → Expr → Prop
  | whole : Stands S root query [] [] none query
  | target {before : List Char} {openings : List (Opening κ)} {element : Option (ValueType κ)}
      {e target : Expr} (h : Stands S root query before openings element e)
      (ht : e.target? = some target) : Stands S root query before openings element target
  | left {before : List Char} {openings : List (Opening κ)} {element : Option (ValueType κ)}
      {left right : Expr} {op : Operator}
      (h : Stands S root query before openings element (.binary left op right)) :
      Stands S root query before openings element left
  | right {before : List Char} {openings : List (Opening κ)} {element : Option (ValueType κ)}
      {left right : Expr} {op : Operator}
      (h : Stands S root query before openings element (.binary left op right)) :
      Stands S root query (before ++ (left.spelling ++ ' ' :: op.symbol.toList ++ [' ']))
        openings element right
  | argument {before : List Char} {openings : List (Opening κ)}
      {element : Option (ValueType κ)} {target a : Expr} {method : String}
      {earlier later : List Expr} {source : Plan κ ρ}
      (h : Stands S root query before openings element
        (.call target method (earlier ++ a :: later)))
      (hs : Plan.compileIn S root (scopeOf openings) element target = .ok source)
      (value : a.isLambda = false) :
      Stands S root query (before ++ target.beforeArgument method earlier) openings
        ((source.type S).element?.or element) a
  | body {before : List Char} {openings : List (Opening κ)} {element : Option (ValueType κ)}
      {target body : Expr} {x method : String} {earlier later : List Expr} {source : Plan κ ρ}
      (h : Stands S root query before openings element
        (.call target method (earlier ++ .lambda x body :: later)))
      (hs : Plan.compileIn S root (scopeOf openings) element target = .ok source) :
      Stands S root query
        (before ++ target.beforeArgument method earlier ++ (x.toList ++ " => ".toList))
        (⟨(scopeOf openings).bind x (((source.type S).element?.or element).getD root.element),
          before ++ target.beforeArgument method earlier, target⟩ :: openings)
        ((source.type S).element?.or element) body

namespace Stands

variable [DecidableEq κ] {S : Schema κ ρ} {root : Root κ ρ} {query part : Expr}
  {before : List Char} {openings : List (Opening κ)} {element : Option (ValueType κ)}

/-- The body of a lambda that is the only argument of its call. -/
theorem only {target body : Expr} {x method : String} {source : Plan κ ρ}
    (h : Stands S root query before openings element (.call target method [.lambda x body]))
    (hs : Plan.compileIn S root (scopeOf openings) element target = .ok source) :
    Stands S root query (before ++ target.beforeArgument method [] ++ (x.toList ++ " => ".toList))
      (⟨(scopeOf openings).bind x (((source.type S).element?.or element).getD root.element),
        before ++ target.beforeArgument method [], target⟩ :: openings)
      ((source.type S).element?.or element) body := by
  have call : Stands S root query before openings element
    (.call target method ([] ++ .lambda x body :: [])) := h
  exact call.body hs

theorem written (hq : query.Written) (h : Stands S root query before openings element part) :
    part.Written := by
  induction h with
  | whole => exact hq
  | target _ ht ih =>
    cases ih with
    | member _ written _ =>
      cases ht
      exact written
    | call _ written _ _ =>
      cases ht
      exact written
    | _ => cases ht
  | left _ ih =>
    cases ih with
    | binary hl => exact hl
  | right _ ih =>
    cases ih with
    | binary _ _ hr => exact hr
  | argument _ _ _ ih =>
    cases ih with
    | call _ _ _ ha => exact ha _ (by simp)
  | @body _ _ _ _ body x _ _ _ _ _ _ ih =>
    cases ih with
    | call _ _ _ ha =>
      cases ha (.lambda x body) (by simp) with
      | lambda _ hb => exact hb

/-- Each part has a plan in the scope of the lambdas around it. -/
theorem compiles {p : Plan κ ρ} (hp : Plan.compile S root query = .ok p)
    (h : Stands S root query before openings element part) :
    ∃ q, Plan.compileIn S root (scopeOf openings) element part = .ok q := by
  induction h with
  | whole =>
    obtain ⟨_, _, hp⟩ := bind_eq_ok.mp hp
    exact ⟨p, hp⟩
  | @target _ _ _ e _ _ ht ih =>
    obtain ⟨q, hq⟩ := ih
    cases e with
    | member target field =>
      cases ht
      obtain ⟨source, _, hs, _⟩ := Plan.compileIn_member hq
      exact ⟨source, hs⟩
    | call target method arguments =>
      cases ht
      obtain ⟨source, hs, _⟩ := Plan.compileIn_call hq
      exact ⟨source, hs⟩
    | _ => cases ht
  | left _ ih =>
    obtain ⟨q, hq⟩ := ih
    exact (Plan.compileIn_binary hq).1
  | right _ ih =>
    obtain ⟨q, hq⟩ := ih
    exact (Plan.compileIn_binary hq).2
  | argument _ hs _ ih =>
    obtain ⟨q, hq⟩ := ih
    exact Plan.compileIn_argument hq hs (by simp)
  | @body _ _ _ _ body x _ _ _ _ _ hs ih =>
    obtain ⟨q, hq⟩ := ih
    obtain ⟨l, hl⟩ := Plan.compileIn_argument hq hs (a := .lambda x body) (by simp)
    exact Plan.compileIn_lambda hl

/-- A part starts behind a parenthesis or a space, if anything stands in front of it. -/
theorem opens (h : Stands S root query before openings element part) :
    Completion.Opens before := by
  induction h with
  | whole => exact Completion.opens_nil
  | target _ _ ih => exact ih
  | left _ ih => exact ih
  | right =>
    rw [← List.append_assoc]
    exact Completion.opens_append (.inr rfl) _
  | argument => exact opens_beforeArgument _ _ _ _
  | @body before _ _ target _ x method earlier =>
    have last : before ++ target.beforeArgument method earlier ++ (x.toList ++ " => ".toList) =
        before ++ target.beforeArgument method earlier ++ (x.toList ++ " =>".toList) ++ [' '] := by
      simp
    rw [last]
    exact Completion.opens_append (.inr rfl) _

/-- The query starts with the text in front of a part, and the part. -/
theorem isPrefix (h : Stands S root query before openings element part) :
    before ++ part.spelling <+: query.spelling := by
  induction h with
  | whole => exact List.prefix_rfl
  | @target before _ _ e target _ ht ih =>
    refine List.IsPrefix.trans ?_ ih
    rw [List.prefix_append_right_inj]
    cases e with
    | member target field =>
      cases ht
      exact List.prefix_append ..
    | call target method arguments =>
      cases ht
      rw [spelling, List.append_assoc, List.append_assoc]
      exact List.prefix_append ..
    | _ => cases ht
  | left _ ih =>
    refine List.IsPrefix.trans ?_ ih
    rw [List.prefix_append_right_inj, spelling, List.append_assoc]
    exact List.prefix_append ..
  | right _ ih =>
    refine List.IsPrefix.trans ?_ ih
    rw [List.append_assoc, List.prefix_append_right_inj, spelling]
    exact ⟨[], by simp⟩
  | argument _ _ _ ih =>
    refine List.IsPrefix.trans ?_ ih
    rw [List.append_assoc, List.prefix_append_right_inj]
    exact argument_prefix ..
  | @body _ _ _ target body x method earlier later _ _ _ ih =>
    refine List.IsPrefix.trans ?_ ih
    have lambda : (Expr.lambda x body).spelling = x.toList ++ " => ".toList ++ body.spelling := rfl
    rw [List.append_assoc, List.append_assoc, List.prefix_append_right_inj, ← lambda]
    exact argument_prefix ..

end Stands

end CommitQuery
