-- The parts of a compiled plan. Each stands under the parameters of the lambdas around
-- it, and runs on any stack that holds one value for each of them.
import CommitQuery.Proofs.Plan.Progress

namespace CommitQuery.Plan

variable {κ ρ : Type}

/-- A part of a plan, with the parameters of the lambdas around it, innermost first. -/
inductive Part (p : Plan κ ρ) : Scope κ → Plan κ ρ → Prop
  | whole : Part p [] p
  | operand {scope : Scope κ} {q r : Plan κ ρ} (hq : Part p scope q) (hr : r ∈ q.operands) :
      Part p scope r
  | called {scope : Scope κ} {q source body : Plan κ ρ} {b : Binder κ} (hq : Part p scope q)
      (hb : q.lambda? = some (source, b, body)) : Part p (b :: scope) body
  | body {scope : Scope κ} {b : Binder κ} {body : Plan κ ρ}
      (hq : Part p scope (.lambda b body)) : Part p (b :: scope) body

/-- What a part of a plan on some stack gives as the items of a sequence. -/
def Supplies (S : Schema κ ρ) (stack : List (Value κ ρ)) (source : Plan κ ρ)
    (items : List (Value κ ρ)) : Prop :=
  ∃ element origin, outcome S stack source = .ok (.sequence element items origin)

/-- The function that a lambda is on some stack: what its body comes to for an item. -/
def called (S : Schema κ ρ) (stack : List (Value κ ρ)) (b : Binder κ) (body : Plan κ ρ)
    (item : Value κ ρ) : Except RuntimeError (Value κ ρ) :=
  outcome S (stack.take b.slot ++ [item]) body

variable {S : Schema κ ρ} {scope : Scope κ} {p q : Plan κ ρ}

/-- A stack with a value for one more parameter is such a stack with a value on top. -/
theorem matches_bind {x : String} {item : ValueType κ}
    (h : ∀ stack : List (Value κ ρ), stack.length = scope.length → ∃ env, Matches scope stack env)
    (stack : List (Value κ ρ)) (hs : stack.length = (scope.bind x item :: scope).length) :
    ∃ env, Matches (scope.bind x item :: scope) stack env := by
  rcases stack.eq_nil_or_concat' with rfl | ⟨below, v, rfl⟩
  · cases hs
  · obtain ⟨env, hm⟩ := h below (by simpa using hs)
    exact ⟨(x, v) :: env, hm.call x item v⟩

variable [DecidableEq κ] {root : Root κ ρ}

theorem WellFormed.operand (h : WellFormed S root scope q) {r : Plan κ ρ} (hr : r ∈ q.operands) :
    WellFormed S root scope r := by
  cases h with
  | root | text | number | parameter | lambda => cases hr
  | member ht => exact List.mem_singleton.mp hr ▸ ht
  | invoke ht _ ha =>
    rcases List.mem_cons.mp hr with rfl | hr
    · exact ht
    · exact ha r hr
  | convert _ hp => exact List.mem_singleton.mp hr ▸ hp
  | compare _ hl hr' | logical _ hl hr' =>
    rcases List.mem_cons.mp hr with rfl | hr
    · exact hl
    · exact List.mem_singleton.mp hr ▸ hr'
  | filter hs | select hs | sort _ hs | find _ hs | findWhere _ hs =>
    exact List.mem_singleton.mp hr ▸ hs
  | slice _ hs _ hc =>
    rcases List.mem_cons.mp hr with rfl | hr
    · exact hs
    · exact List.mem_singleton.mp hr ▸ hc

/-- An operator calls its lambda with a parameter of its own. -/
theorem WellFormed.lambda? (h : WellFormed S root scope q) {source body : Plan κ ρ} {b : Binder κ}
    (hb : q.lambda? = some (source, b, body)) :
    ∃ x item, b = scope.bind x item ∧ WellFormed S root (b :: scope) body := by
  cases h with
  | filter _ _ hbody | select _ _ hbody | sort _ _ _ hbody | findWhere _ _ _ hbody =>
    cases hb
    exact ⟨_, _, rfl, hbody⟩
  | _ => cases hb

theorem WellFormed.part (h : WellFormed S root [] p) (hq : Part p scope q) :
    WellFormed S root scope q := by
  induction hq with
  | whole => exact h
  | operand _ hr ih => exact ih.operand hr
  | called _ hb ih =>
    obtain ⟨_, _, rfl, hbody⟩ := ih.lambda? hb
    exact hbody
  | body _ ih =>
    cases ih with
    | lambda hbody => exact hbody

/-- Every stack of the right depth has its values under the names of the parameters. -/
theorem WellFormed.matches_part (h : WellFormed S root [] p) (hq : Part p scope q)
    (stack : List (Value κ ρ)) (hs : stack.length = scope.length) :
    ∃ env, Matches scope stack env := by
  induction hq generalizing stack with
  | whole =>
    rw [List.length_eq_zero_iff.mp hs]
    exact ⟨[], .nil⟩
  | operand _ _ ih => exact ih stack hs
  | called hq hb ih =>
    obtain ⟨_, _, rfl, _⟩ := (h.part hq).lambda? hb
    exact matches_bind ih stack hs
  | body hq ih =>
    cases h.part hq with
    | lambda => exact matches_bind ih stack hs

/-- A part that runs on the values of its parameters leaves them on the stack. -/
theorem WellFormed.gives_outcome {stack : List (Value κ ρ)} {env : Environment κ ρ}
    (h : WellFormed S root scope p) (hm : Matches scope stack env) :
    Run.Gives (evaluate S p) stack (outcome S stack p) := by
  rw [h.outcome_eq hm]
  exact h.gives_meaning hm

/-- Called by an operator, the body of a lambda comes to its meaning for the item. -/
theorem WellFormed.called_eq {stack : List (Value κ ρ)} {env : Environment κ ρ} {x : String}
    {type : ValueType κ} {body : Plan κ ρ}
    (h : WellFormed S root (scope.bind x type :: scope) body) (hm : Matches scope stack env) :
    called S stack (scope.bind x type) body = fun item => meaning S ((x, item) :: env) body :=
  funext (h.outcome_call hm)

end CommitQuery.Plan
