-- Queries that differ in the names of their parameters only. A lambda anywhere in a
-- query may call its parameter by any name that the query does not use: what it binds is
-- renamed along, and the query stays alike.
import CommitQuery.Query.Expr

namespace CommitQuery.Query

/-! ## Names and places -/

namespace Expr

mutual

/-- The names of a query that parameters have or may have. Those after a dot are none. -/
def identifiers : Expr → List String
  | .name s => [s]
  | .text _ | .number _ => []
  | .member target _ => target.identifiers
  | .call target _ arguments => target.identifiers ++ identifiersOf arguments
  | .lambda x body => x :: body.identifiers
  | .binary left _ right => left.identifiers ++ right.identifiers

def identifiersOf : List Expr → List String
  | [] => []
  | e :: more => e.identifiers ++ identifiersOf more

end

theorem identifiersOf_append (es more : List Expr) :
    identifiersOf (es ++ more) = identifiersOf es ++ identifiersOf more := by
  induction es with
  | nil => rfl
  | cons e rest ih =>
    show e.identifiers ++ identifiersOf (rest ++ more) = _
    rw [ih, ← List.append_assoc]
    rfl

mutual

/-- A part of a query with the name `y` where it used `x` of its surroundings. A lambda
with a parameter `x` of its own has none of these uses. -/
def rename (x y : String) : Expr → Expr
  | .name s => .name (if s = x then y else s)
  | .text s => .text s
  | .number n => .number n
  | .member target field => .member (target.rename x y) field
  | .call target method arguments => .call (target.rename x y) method (renameAll x y arguments)
  | .lambda p body => .lambda p (if p = x then body else body.rename x y)
  | .binary left op right => .binary (left.rename x y) op (right.rename x y)

def renameAll (x y : String) : List Expr → List Expr
  | [] => []
  | e :: more => e.rename x y :: renameAll x y more

end

end Expr

/-- A query with one part left open. -/
inductive Context
  | hole
  | member (inner : Context) (field : String)
  | callee (inner : Context) (method : String) (arguments : List Expr)
  | argument (target : Expr) (method : String) (before : List Expr) (inner : Context)
      (after : List Expr)
  | body (parameter : String) (inner : Context)
  | left (inner : Context) (op : Operator) (right : Expr)
  | right (left : Expr) (op : Operator) (inner : Context)

/-- The query with its open part filled. -/
def Context.fill (part : Expr) : Context → Expr
  | .hole => part
  | .member inner field => .member (inner.fill part) field
  | .callee inner method arguments => .call (inner.fill part) method arguments
  | .argument t method before inner after => .call t method (before ++ inner.fill part :: after)
  | .body parameter inner => .lambda parameter (inner.fill part)
  | .left inner op r => .binary (inner.fill part) op r
  | .right l op inner => .binary l op (inner.fill part)

/-! ## Alike queries -/

/-- Two names mean the same under pairs of parameters, innermost first: a pair binds both
of them, or neither. -/
inductive Paired : List (String × String) → String → String → Prop
  | free (s : String) : Paired [] s s
  | bound {pairs : List (String × String)} (x y : String) : Paired ((x, y) :: pairs) x y
  | outer {pairs : List (String × String)} {x y s t : String} (hx : x ≠ s) (hy : y ≠ t)
      (h : Paired pairs s t) : Paired ((x, y) :: pairs) s t

mutual

/-- Queries that differ in the names of parameters only, under pairs of parameters. -/
inductive Alike : List (String × String) → Expr → Expr → Prop
  | name {pairs : List (String × String)} {s t : String} (h : Paired pairs s t) :
      Alike pairs (.name s) (.name t)
  | text {pairs : List (String × String)} (s : String) : Alike pairs (.text s) (.text s)
  | number {pairs : List (String × String)} (n : Int32) : Alike pairs (.number n) (.number n)
  | member {pairs : List (String × String)} {t t' : Expr} (ht : Alike pairs t t')
      (field : String) : Alike pairs (.member t field) (.member t' field)
  | call {pairs : List (String × String)} {t t' : Expr} {as as' : List Expr}
      (ht : Alike pairs t t') (method : String) (ha : AllAlike pairs as as') :
      Alike pairs (.call t method as) (.call t' method as')
  | lambda {pairs : List (String × String)} (x y : String) {b b' : Expr}
      (hb : Alike ((x, y) :: pairs) b b') : Alike pairs (.lambda x b) (.lambda y b')
  | binary {pairs : List (String × String)} {l l' r r' : Expr} (hl : Alike pairs l l')
      (op : Operator) (hr : Alike pairs r r') : Alike pairs (.binary l op r) (.binary l' op r')

inductive AllAlike : List (String × String) → List Expr → List Expr → Prop
  | nil {pairs : List (String × String)} : AllAlike pairs [] []
  | cons {pairs : List (String × String)} {e e' : Expr} {es es' : List Expr}
      (he : Alike pairs e e') (hes : AllAlike pairs es es') :
      AllAlike pairs (e :: es) (e' :: es')

end

variable {pairs : List (String × String)} {x y : String}

theorem Alike.isLambda_eq {e e' : Expr} (h : Alike pairs e e') : e.isLambda = e'.isLambda := by
  cases h <;> rfl

theorem AllAlike.append {as as' bs bs' : List Expr} (ha : AllAlike pairs as as')
    (hb : AllAlike pairs bs bs') : AllAlike pairs (as ++ bs) (as' ++ bs') := by
  induction as generalizing as' with
  | nil =>
    cases ha
    exact hb
  | cons a rest ih =>
    cases ha with
    | cons he hes => exact .cons he (ih hes)

/-! ## Names that mean themselves -/

/-- Names that mean the same on both sides. -/
def Kept (pairs : List (String × String)) (names : List String) : Prop :=
  ∀ s ∈ names, Paired pairs s s

theorem kept_append {names more : List String} :
    Kept pairs (names ++ more) ↔ Kept pairs names ∧ Kept pairs more := List.forall_mem_append

theorem Kept.bind {names : List String} (h : Kept pairs names) (x : String) :
    Kept ((x, x) :: pairs) names := by
  intro s hs
  by_cases same : x = s
  · subst same
    exact .bound x x
  · exact .outer same same (h s hs)

mutual

/-- A query is like itself where its names keep their meaning. -/
theorem alike_self {pairs : List (String × String)} (e : Expr)
    (h : Kept pairs e.identifiers) : Alike pairs e e := by
  cases e with
  | name s => exact .name (h s (by simp [Expr.identifiers]))
  | text s => exact .text s
  | number n => exact .number n
  | member target field => exact .member (alike_self target h) field
  | call target method arguments =>
    obtain ⟨ht, ha⟩ := kept_append.mp h
    exact .call (alike_self target ht) method (allAlike_self arguments ha)
  | lambda p body =>
    have hb : Kept pairs body.identifiers := fun s hs => h s (List.mem_cons_of_mem p hs)
    exact .lambda p p (alike_self body (hb.bind p))
  | binary left op right =>
    obtain ⟨hl, hr⟩ := kept_append.mp h
    exact .binary (alike_self left hl) op (alike_self right hr)

theorem allAlike_self {pairs : List (String × String)} (es : List Expr)
    (h : Kept pairs (Expr.identifiersOf es)) : AllAlike pairs es es := by
  cases es with
  | nil => exact .nil
  | cons e more =>
    obtain ⟨he, hmore⟩ := kept_append.mp h
    exact .cons (alike_self e he) (allAlike_self more hmore)

end

/-! ## Renaming -/

/-- Names that mean themselves, but for `x`, which means `y`; no name is `y`. -/
structure Renames (pairs : List (String × String)) (x y : String) (names : List String) :
    Prop where
  renamed : Paired pairs x y
  others : ∀ s ∈ names, s ≠ x → Paired pairs s s
  fresh : y ∉ names

theorem renames_append {names more : List String} (h : Renames pairs x y (names ++ more)) :
    Renames pairs x y names ∧ Renames pairs x y more := by
  obtain ⟨renamed, others, fresh⟩ := h
  rw [List.mem_append, not_or] at fresh
  exact ⟨⟨renamed, fun s hs => others s (List.mem_append_left _ hs), fresh.1⟩,
    ⟨renamed, fun s hs => others s (List.mem_append_right _ hs), fresh.2⟩⟩

/-- A lambda within that has a parameter of the same name keeps what it binds. -/
theorem Renames.shadowed {names : List String} (h : Renames pairs x y names) :
    Kept ((x, x) :: pairs) names := by
  intro s hs
  by_cases same : s = x
  · subst same
    exact .bound s s
  · exact .outer (Ne.symm same) (Ne.symm same) (h.others s hs same)

/-- Under a lambda with another parameter the name is still the outer one. -/
theorem Renames.bind {names : List String} {p : String} (h : Renames pairs x y (p :: names))
    (hp : p ≠ x) : Renames ((p, p) :: pairs) x y names where
  renamed := .outer hp (fun same => h.fresh (by simp [same])) h.renamed
  others s hs other := by
    by_cases same : p = s
    · subst same
      exact .bound p p
    · exact .outer same same (h.others s (List.mem_cons_of_mem p hs) other)
  fresh hy := h.fresh (List.mem_cons_of_mem p hy)

mutual

theorem alike_rename {pairs : List (String × String)} (e : Expr)
    (h : Renames pairs x y e.identifiers) : Alike pairs e (e.rename x y) := by
  cases e with
  | name s =>
    refine .name ?_
    split
    · rename_i same
      exact same ▸ h.renamed
    · rename_i other
      exact h.others s (by simp [Expr.identifiers]) other
  | text s => exact .text s
  | number n => exact .number n
  | member target field => exact .member (alike_rename target h) field
  | call target method arguments =>
    obtain ⟨ht, ha⟩ := renames_append h
    exact .call (alike_rename target ht) method (allAlike_rename arguments ha)
  | lambda p body =>
    refine .lambda p p ?_
    split
    · rename_i same
      subst same
      have split : Renames pairs p y ([p] ++ body.identifiers) := h
      exact alike_self body (renames_append split).2.shadowed
    · rename_i other
      exact alike_rename body (h.bind other)
  | binary left op right =>
    obtain ⟨hl, hr⟩ := renames_append h
    exact .binary (alike_rename left hl) op (alike_rename right hr)

theorem allAlike_rename {pairs : List (String × String)} (es : List Expr)
    (h : Renames pairs x y (Expr.identifiersOf es)) :
    AllAlike pairs es (Expr.renameAll x y es) := by
  cases es with
  | nil => exact .nil
  | cons e more =>
    obtain ⟨he, hmore⟩ := renames_append h
    exact .cons (alike_rename e he) (allAlike_rename more hmore)

end

/-- A lambda is like itself with a fresh name for its parameter. -/
theorem alike_renamed {body : Expr} (h : Kept pairs (Expr.lambda x body).identifiers)
    (fresh : y ∉ (Expr.lambda x body).identifiers) :
    Alike pairs (.lambda x body) (.lambda y (body.rename x y)) := by
  obtain ⟨hx, hy⟩ : y ≠ x ∧ y ∉ body.identifiers := by simpa [Expr.identifiers] using fresh
  refine .lambda x y (alike_rename body ⟨.bound x y, fun s hs other => ?_, hy⟩)
  refine .outer (Ne.symm other) (fun same => hy (same ▸ hs)) ?_
  exact h s (List.mem_cons_of_mem x hs)

theorem identifiers_argument (part target : Expr) (method : String) (before : List Expr)
    (inner : Context) (after : List Expr) :
    (Context.fill part (.argument target method before inner after)).identifiers =
      target.identifiers ++ (Expr.identifiersOf before ++
        ((inner.fill part).identifiers ++ Expr.identifiersOf after)) :=
  congrArg (target.identifiers ++ ·) (Expr.identifiersOf_append before (inner.fill part :: after))

/-- Wherever the lambda stands, the whole query is like itself. -/
theorem alike_fill {body : Expr} (around : Context)
    (h : Kept pairs (around.fill (.lambda x body)).identifiers)
    (fresh : y ∉ (around.fill (.lambda x body)).identifiers) :
    Alike pairs (around.fill (.lambda x body)) (around.fill (.lambda y (body.rename x y))) := by
  induction around generalizing pairs with
  | hole => exact alike_renamed h fresh
  | member inner field ih => exact .member (ih h fresh) field
  | callee inner method arguments ih =>
    obtain ⟨hinner, ha⟩ := kept_append.mp h
    exact .call (ih hinner fun hy => fresh (List.mem_append_left _ hy)) method
      (allAlike_self arguments ha)
  | argument target method before inner after ih =>
    rw [identifiers_argument] at h fresh
    obtain ⟨ht, h⟩ := kept_append.mp h
    obtain ⟨hbefore, h⟩ := kept_append.mp h
    obtain ⟨hinner, hafter⟩ := kept_append.mp h
    have inside := ih hinner fun hy => fresh (by simp [hy])
    exact .call (alike_self target ht) method
      ((allAlike_self before hbefore).append (.cons inside (allAlike_self after hafter)))
  | body p inner ih =>
    have hinner : Kept pairs (inner.fill (.lambda x body)).identifiers :=
      fun s hs => h s (List.mem_cons_of_mem p hs)
    exact .lambda p p (ih (hinner.bind p) fun hy => fresh (List.mem_cons_of_mem p hy))
  | left inner op right ih =>
    obtain ⟨hinner, hr⟩ := kept_append.mp h
    exact .binary (ih hinner fun hy => fresh (List.mem_append_left _ hy)) op (alike_self right hr)
  | right left op inner ih =>
    obtain ⟨hl, hinner⟩ := kept_append.mp h
    exact .binary (alike_self left hl) op (ih hinner fun hy => fresh (List.mem_append_right _ hy))

end CommitQuery.Query
