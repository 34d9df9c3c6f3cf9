-- Lexical scoping. A second evaluator keeps no stack: it finds a parameter by its
-- name in an environment that grows for the body of a lambda and is never changed.
-- It agrees with the run of every plan that the compiler gives.
import Mathlib
import CommitQuery.Plan.Evaluate
import CommitQuery.Proofs.Commit.Honest
import CommitQuery.Proofs.Plan.WellFormed

namespace CommitQuery

open Query

variable {κ ρ : Type}

/-- The values of the parameters by name, innermost first. -/
abbrev Environment (κ ρ : Type) := List (String × Value κ ρ)

namespace Plan

/-! ## Evaluation by names -/

section Meaning

variable (S : Schema κ ρ)

/-- The items of the value that an operator is called on. -/
def itemsOf (operator : String) : Value κ ρ → Except RuntimeError (List (Value κ ρ))
  | .sequence _ items _ => .ok items
  | .null => .error (.operatorOfNull operator)
  | other => .error (.operatorOfOther operator (S.typeName (S.typeOf other)))

/-- The count that a value stands for; a negative number counts as zero. -/
def sizeOf? (v : Value κ ρ) : Except RuntimeError Nat :=
  match v.toInt? with
  | some n => .ok n.toNat
  | none => .error (.badCount (S.shown v))

/-- The found item, or else an error. -/
def foundOr (missing : RuntimeError) : Option (Value κ ρ) → Except RuntimeError (Value κ ρ)
  | some item => .ok item
  | none => .error missing

/-- What a finder says about all items. -/
def answerOf (finder : Finder) (items : List (Value κ ρ)) : Except RuntimeError (Value κ ρ) :=
  match finder with
  | .first => foundOr .noElement items.head?
  | .firstOrDefault => .ok (items.head?.getD .null)
  | .any => .ok (.bool items.head?.isSome)
  | .count => .ok (.ofCount items.length)

/-- What a finder says about the items that pass a test. -/
def answerFor (finder : Finder) (passes : Value κ ρ → Except RuntimeError Bool)
    (items : List (Value κ ρ)) : Except RuntimeError (Value κ ρ) := do
  match finder with
  | .first => foundOr .noMatch (← items.findM? passes)
  | .firstOrDefault => return (← items.findM? passes).getD .null
  | .any => return .bool (← items.findM? passes).isSome
  | .count => return .ofCount (← items.filterM passes).length

mutual

/-- The value of a plan in an environment, or the first failure on the way to it. -/
def meaning (env : Environment κ ρ) : Plan κ ρ → Except RuntimeError (Value κ ρ)
  | .constant v => .ok v
  | .parameter b =>
    match env.lookup b.name with
    | some v => .ok v
    | none => .error (.unboundParameter b.name)
  | .member target m => do
    let v ← meaning env target
    if v.isNull then .error (.memberOfNull m.name) else .ok (m.get v)
  | .invoke target m arguments => do
    let v ← meaning env target
    if v.isNull then .error (.methodOfNull m.name)
    else
      let values ← meanings env arguments
      (m.call v values).mapError (.methodFailed m.name)
  | .convert inner w => do return changeWidth w (← meaning env inner)
  | .compare left c right => do
    let l ← meaning env left
    let r ← meaning env right
    return .bool (holds l c r)
  | .logical left .and right => do
    if truth (← meaning env left) then return .bool (truth (← meaning env right))
    else return .bool false
  | .logical left .or right => do
    if truth (← meaning env left) then return .bool true
    else return .bool (truth (← meaning env right))
  | .lambda b _ => .error (.lambdaAsValue b.name)
  | .filter source b body => do
    let items ← itemsOf S SequenceOperator.filter.name (← meaning env source)
    let kept ← items.filterM fun item => do return truth (← meaning ((b.name, item) :: env) body)
    return .ofItems (source.type S).element kept
  | .select source b body => do
    let items ← itemsOf S SequenceOperator.select.name (← meaning env source)
    return .ofItems (body.type S) (← items.mapM fun item => meaning ((b.name, item) :: env) body)
  | .sort source descending b body => do
    let items ← itemsOf S (SequenceOperator.sort descending).name (← meaning env source)
    let keyed ← items.mapM fun item => do return (← meaning ((b.name, item) :: env) body, item)
    return .ofItems (source.type S).element (sortByKeys descending keyed)
  | .slice source s count => do
    let items ← itemsOf S s.name (← meaning env source)
    let n ← sizeOf? S (← meaning env count)
    return .ofItems (source.type S).element (cut s n items)
  | .find source finder => do answerOf finder (← itemsOf S finder.name (← meaning env source))
  | .findWhere source finder b body => do
    let items ← itemsOf S finder.name (← meaning env source)
    answerFor finder (fun item => do return truth (← meaning ((b.name, item) :: env) body)) items

/-- The values of the arguments of a method, from left to right. -/
def meanings (env : Environment κ ρ) : List (Plan κ ρ) → Except RuntimeError (List (Value κ ρ))
  | [] => .ok []
  | p :: more => do
    let v ← meaning env p
    let rest ← meanings env more
    return v :: rest

end

end Meaning

end Plan

/-! ## Runs that leave the stack as it was -/

namespace Run

variable {α β : Type} {stack : List (Value κ ρ)}

/-- On this stack the run gives this result, and the stack is the same after it. -/
def Gives (run : Run κ ρ α) (stack : List (Value κ ρ)) (result : Except RuntimeError α) : Prop :=
  run.run stack = (result, stack)

theorem gives_pure (a : α) : Gives (pure a : Run κ ρ α) stack (.ok a) := rfl

theorem gives_fail (e : RuntimeError) : Gives (fail e : Run κ ρ α) stack (.error e) := rfl

theorem run_bind_ok {m : Run κ ρ α} {after : List (Value κ ρ)} {a : α}
    (h : m.run stack = (.ok a, after)) (f : α → Run κ ρ β) :
    (m >>= f).run stack = (f a).run after := by
  rw [ExceptT.run_bind]
  show StateT.bind m.run _ stack = _
  rw [StateT.bind, h]
  rfl

theorem run_bind_error {m : Run κ ρ α} {after : List (Value κ ρ)} {e : RuntimeError}
    (h : m.run stack = (.error e, after)) (f : α → Run κ ρ β) :
    (m >>= f).run stack = (.error e, after) := by
  rw [ExceptT.run_bind]
  show StateT.bind m.run _ stack = _
  rw [StateT.bind, h]
  rfl

/-- Two runs, one after the other. The second starts on the stack that the first began
with, and matters only if the first gives a value. -/
theorem Gives.bind {m : Run κ ρ α} {f : α → Run κ ρ β} {r : Except RuntimeError α}
    {g : α → Except RuntimeError β} (hm : Gives m stack r)
    (hf : ∀ a, r = .ok a → Gives (f a) stack (g a)) : Gives (m >>= f) stack (r >>= g) := by
  cases r with
  | ok a => exact (run_bind_ok hm f).trans (hf a rfl)
  | error e => exact run_bind_error hm f

theorem gives_slot? (slot : Nat) : Gives (slot? slot : Run κ ρ _) stack (.ok stack[slot]?) := rfl

/-- A call puts the argument on top of the stack and takes it away again. -/
theorem Gives.withArgument {body : Run κ ρ α} {slot : Nat} {v : Value κ ρ}
    {r : Except RuntimeError α} (hlen : stack.length = slot) (hb : Gives body (stack ++ [v]) r) :
    Gives (withArgument slot v body) stack r := by
  subst hlen
  have called : body (stack.take stack.length ++ [v]) = (r, stack ++ [v]) := by
    rw [List.take_length]
    exact hb
  show Run.withArgument stack.length v body stack = (r, stack)
  rw [Run.withArgument, called]
  simp

/-! ### Walks over the items of a sequence -/

theorem Gives.keep {test : α → Run κ ρ Bool} {passes : α → Except RuntimeError Bool}
    (h : ∀ a, Gives (test a) stack (passes a)) (items : List α) :
    Gives (keep test items) stack (items.filterM passes) := by
  induction items with
  | nil => exact gives_pure []
  | cons a rest ih =>
    rw [filterM_cons]
    refine (h a).bind fun kept _ => ?_
    exact ih.bind fun more _ => gives_pure _

theorem Gives.mapItems {f : α → Run κ ρ β} {image : α → Except RuntimeError β}
    (h : ∀ a, Gives (f a) stack (image a)) (items : List α) :
    Gives (mapItems f items) stack (items.mapM image) := by
  induction items with
  | nil => exact gives_pure []
  | cons a rest ih =>
    rw [List.mapM_cons]
    refine (h a).bind fun b _ => ?_
    exact ih.bind fun more _ => gives_pure _

theorem Gives.findItem {test : α → Run κ ρ Bool} {passes : α → Except RuntimeError Bool}
    (h : ∀ a, Gives (test a) stack (passes a)) (items : List α) :
    Gives (findItem test items) stack (items.findM? passes) := by
  induction items with
  | nil => exact gives_pure none
  | cons a rest ih =>
    rw [List.findM?]
    refine (h a).bind fun found _ => ?_
    cases found with
    | true => exact gives_pure (some a)
    | false => exact ih

end Run

namespace Plan

variable {S : Schema κ ρ} {stack : List (Value κ ρ)}

open Run (Gives gives_pure gives_fail)

theorem gives_itemsFor (operator : String) (v : Value κ ρ) :
    Gives (itemsFor S operator v) stack (itemsOf S operator v) := by
  cases v <;> rfl

theorem gives_countOf (v : Value κ ρ) : Gives (countOf S v) stack (sizeOf? S v) := by
  unfold countOf sizeOf?
  cases v.toInt? with
  | some n => exact gives_pure _
  | none => exact gives_fail _

theorem gives_answerAll (finder : Finder) (items : List (Value κ ρ)) :
    Gives (answerAll finder items) stack (answerOf finder items) := by
  cases finder with
  | first => cases items <;> rfl
  | firstOrDefault => cases items <;> rfl
  | any => cases items <;> rfl
  | count => rfl

theorem gives_answerWhere {test : Value κ ρ → Run κ ρ Bool}
    {passes : Value κ ρ → Except RuntimeError Bool}
    (h : ∀ item, Gives (test item) stack (passes item)) (finder : Finder)
    (items : List (Value κ ρ)) :
    Gives (answerWhere finder test items) stack (answerFor finder passes items) := by
  cases finder with
  | count => exact (Gives.keep h items).bind fun kept _ => gives_pure _
  | _ =>
    refine (Gives.findItem h items).bind fun found _ => ?_
    cases found <;> rfl

/-! ## Stacks and environments -/

/-- A stack and an environment that were made by the same calls. -/
inductive Matches : Scope κ → List (Value κ ρ) → Environment κ ρ → Prop
  | nil : Matches [] [] []
  | call {scope : Scope κ} {stack : List (Value κ ρ)} {env : Environment κ ρ} (x : String)
      (type : ValueType κ) (v : Value κ ρ) (h : Matches scope stack env) :
      Matches (scope.bind x type :: scope) (stack ++ [v]) ((x, v) :: env)

theorem Matches.length {scope : Scope κ} {env : Environment κ ρ} (h : Matches scope stack env) :
    stack.length = scope.length := by
  induction h with
  | nil => rfl
  | call x type v _ ih => simp [ih]

theorem Matches.take {scope : Scope κ} {env : Environment κ ρ} (h : Matches scope stack env)
    (x : String) (type : ValueType κ) : stack.take (scope.bind x type).slot = stack :=
  List.take_of_length_le (Nat.le_of_eq h.length)

/-- The slot of a parameter holds what the environment has under its name: the
innermost parameter of a name is also the last one put on the stack. -/
theorem Matches.lookup {scope : Scope κ} {env : Environment κ ρ} (h : Matches scope stack env)
    {x : String} {b : Binder κ} (hb : scope.lookup? x = some b) :
    ∃ v, stack[b.slot]? = some v ∧ env.lookup x = some v := by
  induction h with
  | nil => cases hb
  | @call scope stack env y type v h ih =>
    rw [Scope.lookup?, List.find?_cons] at hb
    split at hb
    · rename_i same
      cases hb
      have hy : y = x := of_decide_eq_true same
      refine ⟨v, ?_, by simp [hy]⟩
      rw [Scope.bind, ← h.length]
      simp
    · rename_i other
      have hy : ¬ x = y := fun h => by simp [Scope.bind, h] at other
      obtain ⟨w, hw, hx⟩ := ih hb
      have hlt : b.slot < stack.length := by
        by_contra hge
        rw [List.getElem?_eq_none (by omega)] at hw
        cases hw
      refine ⟨w, ?_, ?_⟩
      · rw [List.getElem?_append_left hlt, hw]
      · rw [List.lookup_cons, beq_false_of_ne hy, hx]

theorem gives_evaluateAll {env : Environment κ ρ} {arguments : List (Plan κ ρ)}
    (h : ∀ a ∈ arguments, Gives (evaluate S a) stack (meaning S env a)) :
    Gives (evaluateAll S arguments) stack (meanings S env arguments) := by
  induction arguments with
  | nil => exact gives_pure []
  | cons a more ih =>
    simp only [evaluateAll, meanings]
    refine (h a (by simp)).bind fun v _ => ?_
    exact (ih fun b hb => h b (by simp [hb])).bind fun rest _ => gives_pure _

/-- A call of a lambda that an operator makes for an item. -/
theorem Matches.gives_call {scope : Scope κ} {env : Environment κ ρ}
    (h : Matches scope stack env) {x : String} {type : ValueType κ} {body : Plan κ ρ}
    (hb : ∀ v, Gives (evaluate S body) (stack ++ [v]) (meaning S ((x, v) :: env) body))
    (item : Value κ ρ) :
    Gives (Run.withArgument (scope.bind x type).slot item (evaluate S body)) stack
      (meaning S ((x, item) :: env) body) :=
  Gives.withArgument h.length (hb item)

variable [DecidableEq κ] {root : Root κ ρ} {scope : Scope κ} {env : Environment κ ρ}

/-- The run of a plan gives its meaning and leaves the stack as it was. -/
theorem WellFormed.gives_meaning {p : Plan κ ρ} (h : WellFormed S root scope p)
    (hm : Matches scope stack env) : Gives (evaluate S p) stack (meaning S env p) := by
  induction h generalizing stack env with
  | root => exact gives_pure _
  | text s => exact gives_pure _
  | number n => exact gives_pure _
  | @parameter scope b bound =>
    obtain ⟨v, hslot, hname⟩ := hm.lookup bound
    simp only [evaluate, meaning, hname]
    refine (Run.run_bind_ok (Run.gives_slot? b.slot) _).trans ?_
    rw [hslot]
    rfl
  | member _ _ ih =>
    simp only [evaluate, meaning]
    refine (ih hm).bind fun v _ => ?_
    split
    · exact gives_fail _
    · exact gives_pure _
  | @invoke scope target m arguments _ _ _ _ iht iha =>
    simp only [evaluate, meaning]
    refine (iht hm).bind fun v _ => ?_
    split
    · exact gives_fail _
    · refine (gives_evaluateAll fun a ha => iha a ha hm).bind fun values _ => ?_
      cases m.call v values with
      | ok result => exact gives_pure _
      | error message => exact gives_fail _
  | convert w _ _ ih =>
    simp only [evaluate, meaning]
    exact (ih hm).bind fun v _ => gives_pure _
  | compare c _ _ _ _ _ ihl ihr =>
    simp only [evaluate, meaning]
    refine (ihl hm).bind fun l _ => ?_
    exact (ihr hm).bind fun r _ => gives_pure _
  | logical c _ _ _ _ ihl ihr =>
    cases c with
    | and =>
      simp only [evaluate, meaning]
      refine (ihl hm).bind fun l _ => ?_
      cases truth l with
      | true => exact (ihr hm).bind fun r _ => gives_pure _
      | false => exact gives_pure _
    | or =>
      simp only [evaluate, meaning]
      refine (ihl hm).bind fun l _ => ?_
      cases truth l with
      | true => exact gives_pure _
      | false => exact (ihr hm).bind fun r _ => gives_pure _
  | lambda _ _ _ =>
    simp only [evaluate, meaning]
    exact gives_fail _
  | filter _ _ _ _ ihs ihb =>
    simp only [evaluate, meaning]
    refine (ihs hm).bind fun v _ => ?_
    refine (gives_itemsFor _ v).bind fun items _ => ?_
    refine (Gives.keep (fun item => ?_) items).bind fun kept _ => gives_pure _
    exact (hm.gives_call (fun v => ihb (hm.call _ _ v)) item).bind fun r _ => gives_pure _
  | select _ _ _ _ ihs ihb =>
    simp only [evaluate, meaning]
    refine (ihs hm).bind fun v _ => ?_
    refine (gives_itemsFor _ v).bind fun items _ => ?_
    refine (Gives.mapItems (fun item => ?_) items).bind fun images _ => gives_pure _
    exact hm.gives_call (fun v => ihb (hm.call _ _ v)) item
  | sort descending _ _ _ _ ihs ihb =>
    simp only [evaluate, meaning]
    refine (ihs hm).bind fun v _ => ?_
    refine (gives_itemsFor _ v).bind fun items _ => ?_
    refine (Gives.mapItems (fun item => ?_) items).bind fun keyed _ => gives_pure _
    exact (hm.gives_call (fun v => ihb (hm.call _ _ v)) item).bind fun key _ => gives_pure _
  | slice s _ _ _ _ ihs ihc =>
    simp only [evaluate, meaning]
    refine (ihs hm).bind fun v _ => ?_
    refine (gives_itemsFor _ v).bind fun items _ => ?_
    refine (ihc hm).bind fun count _ => ?_
    exact (gives_countOf count).bind fun n _ => gives_pure _
  | find finder _ _ ihs =>
    simp only [evaluate, meaning]
    refine (ihs hm).bind fun v _ => ?_
    exact (gives_itemsFor _ v).bind fun items _ => gives_answerAll finder items
  | findWhere finder _ _ _ _ ihs ihb =>
    simp only [evaluate, meaning]
    refine (ihs hm).bind fun v _ => ?_
    refine (gives_itemsFor _ v).bind fun items _ => ?_
    refine gives_answerWhere (fun item => ?_) finder items
    exact (hm.gives_call (fun v => ihb (hm.call _ _ v)) item).bind fun r _ => gives_pure _

theorem WellFormed.execute_eq {p : Plan κ ρ} (h : WellFormed S root [] p) :
    execute S p = (meaning S [] p).mapError QueryError.runtime := by
  have run := h.gives_meaning Matches.nil
  unfold execute
  rw [run]
  cases meaning S [] p <;> rfl

/-! ## The law -/

/-- A run looks parameters up by slots on one stack that calls cut and extend. For every
query that compiles this comes to the same value, or to the same error, as looking them
up by name in the scopes that the query is written with. -/
theorem a_run_scopes_parameters_lexically (e : Expr) (p : Plan κ ρ)
    (h : compile S root e = .ok p) :
    execute S p = (meaning S [] p).mapError QueryError.runtime :=
  (wellFormed_compile h).1.execute_eq

/-- A count of commits by a lambda that uses the name of its parameter again inside. -/
def shadowing : Expr :=
  .call (.name "Commits") "Count" [.lambda "x"
    (.call (.member (.member (.name "x") "Diff") "Files") "Any"
      [.lambda "x" (.member (.name "x") "IsBinary")])]

theorem compile_shadowing :
    ∃ p, compile Extension.nothing.schema (.ofCommits [.blank]) shadowing = .ok p :=
  ⟨_, by cbv⟩

theorem shadowing_is_scoped_lexically :
    ∃ p, compile Extension.nothing.schema (.ofCommits [.blank]) shadowing = .ok p ∧
      execute Extension.nothing.schema p =
        (meaning Extension.nothing.schema [] p).mapError QueryError.runtime := by
  obtain ⟨p, h⟩ := compile_shadowing
  exact ⟨p, h, a_run_scopes_parameters_lexically shadowing p h⟩

end Plan

end CommitQuery
