-- Running a plan. A run keeps a stack with the values of the lambda parameters,
-- each in the slot of its binder. Calling a lambda cuts the stack at its slot,
-- puts the argument there and cuts again when the body is done, whether the body
-- gave a value or failed.
import CommitQuery.Plan.Compile
import CommitQuery.Value.Sort

namespace CommitQuery

open Query

variable {κ ρ : Type}

/-- A step of a run: it reads and changes the stack, and may fail. The stack is
there after a failure as well. -/
abbrev Run (κ ρ α : Type) := ExceptT RuntimeError (StateM (List (Value κ ρ))) α

namespace Run

variable {α : Type}

/-- A failure that leaves the stack as it is. -/
def fail (e : RuntimeError) : Run κ ρ α := throw e

/-- The value in a slot of the stack. -/
def slot? (slot : Nat) : Run κ ρ (Option (Value κ ρ)) := fun stack => (.ok stack[slot]?, stack)

/-- Runs a lambda's body with an argument in a slot. -/
def withArgument (slot : Nat) (argument : Value κ ρ) (body : Run κ ρ α) : Run κ ρ α := fun stack =>
  let (result, after) := body (stack.take slot ++ [argument])
  (result, after.take slot)

/-! ## Items of a sequence -/

variable {β : Type}

/-- The items that pass a test, in order. Every item is tested. -/
def keep (test : β → Run κ ρ Bool) : List β → Run κ ρ (List β)
  | [] => pure []
  | item :: rest => do
    let kept ← test item
    let more ← keep test rest
    return if kept then item :: more else more

/-- The images of the items, in order. -/
def mapItems {γ : Type} (f : β → Run κ ρ γ) : List β → Run κ ρ (List γ)
  | [] => pure []
  | item :: rest => do
    let image ← f item
    let more ← mapItems f rest
    return image :: more

/-- The first item that passes a test. No item after it is tested. -/
def findItem (test : β → Run κ ρ Bool) : List β → Run κ ρ (Option β)
  | [] => pure none
  | item :: rest => do
    if ← test item then return some item
    findItem test rest

end Run

namespace Plan

variable (S : Schema κ ρ)

/-! ## Steps -/

/-- The truth of a value; only a condition that holds is true. -/
def truth (v : Value κ ρ) : Bool := v.toBool?.getD false

/-- A number in another width; a `Long` that is too large for an `Int` wraps. -/
def changeWidth (width : Width) : Value κ ρ → Value κ ρ
  | .int n =>
    match width with
    | .int => .int n
    | .long => .long n.toInt64
  | .long n =>
    match width with
    | .int => .int n.toInt32
    | .long => .long n
  | other => other

/-- Whether a comparison holds. Order against Null, or between values without an
order, never holds. -/
def holds (left : Value κ ρ) (op : Comparison) (right : Value κ ρ) : Bool :=
  match op with
  | .equal => left.equals right
  | .notEqual => !left.equals right
  | .greater => (left.compare? right).any (·.isGT)
  | .less => (left.compare? right).any (·.isLT)
  | .greaterOrEqual => (left.compare? right).any (·.isGE)
  | .lessOrEqual => (left.compare? right).any (·.isLE)

/-- The items of what an operator is called on. -/
def itemsFor (operator : String) : Value κ ρ → Run κ ρ (List (Value κ ρ))
  | .sequence _ items _ => pure items
  | .null => Run.fail (.operatorOfNull operator)
  | other => Run.fail (.operatorOfOther operator (S.typeName (S.typeOf other)))

/-- How many items a count stands for; a negative count stands for none. -/
def countOf (v : Value κ ρ) : Run κ ρ Nat :=
  match v.toInt? with
  | some n => pure n.toNat
  | none => Run.fail (.badCount (S.shown v))

/-- The part of a list that a slice keeps. -/
def cut (s : Slice) (count : Nat) (items : List (Value κ ρ)) : List (Value κ ρ) :=
  match s with
  | .take => items.take count
  | .skip => items.drop count

/-- The answer about a found item. -/
def answerFound (finder : Finder) (missing : RuntimeError) (found : Option (Value κ ρ)) :
    Run κ ρ (Value κ ρ) :=
  match finder, found with
  | .any, found => pure (.bool found.isSome)
  | .first, some item => pure item
  | .first, none => Run.fail missing
  | _, some item => pure item
  | _, none => pure .null

/-- The answer about all items of a list. -/
def answerAll (finder : Finder) (items : List (Value κ ρ)) : Run κ ρ (Value κ ρ) :=
  match finder with
  | .count => pure (.ofCount items.length)
  | finder => answerFound finder .noElement items.head?

/-- The answer about the items of a list that pass a test. -/
def answerWhere (finder : Finder) (test : Value κ ρ → Run κ ρ Bool) (items : List (Value κ ρ)) :
    Run κ ρ (Value κ ρ) :=
  match finder with
  | .count => do return .ofCount (← Run.keep test items).length
  | finder => do answerFound finder .noMatch (← Run.findItem test items)

/-- Whether one key has to stand before another. -/
def keyPrecedes (descending : Bool) (a b : Value κ ρ) : Bool :=
  if descending then (b.sortOrder a).isLT else (a.sortOrder b).isLT

/-- Items in the order of their keys; items with tied keys stay in their order. -/
def sortByKeys (descending : Bool) (keyed : List (Value κ ρ × Value κ ρ)) : List (Value κ ρ) :=
  (Sort.sorted (fun a b => keyPrecedes descending a.1 b.1) keyed).map (·.2)

/-! ## Plans -/

mutual

/-- The value of a plan, or the first failure on the way to it. -/
def evaluate : Plan κ ρ → Run κ ρ (Value κ ρ)
  | .constant v => pure v
  | .parameter binder => do
    match ← Run.slot? binder.slot with
    | some v => pure v
    | none => Run.fail (.unboundParameter binder.name)
  | .member target m => do
    let v ← evaluate target
    if v.isNull then Run.fail (.memberOfNull m.name) else pure (m.get v)
  | .invoke target method arguments => do
    let v ← evaluate target
    if v.isNull then Run.fail (.methodOfNull method.name)
    else
      let values ← evaluateAll arguments
      match method.call v values with
      | .ok result => pure result
      | .error message => Run.fail (.methodFailed method.name message)
  | .convert inner width => do return changeWidth width (← evaluate inner)
  | .compare left op right => do
    let l ← evaluate left
    let r ← evaluate right
    return .bool (holds l op r)
  | .logical left op right => do
    let l := truth (← evaluate left)
    match op, l with
    | .and, false => return .bool false
    | .or, true => return .bool true
    | _, _ => return .bool (truth (← evaluate right))
  | .lambda binder _ => Run.fail (.lambdaAsValue binder.name)
  | .filter source binder body => do
    let items ← itemsFor S SequenceOperator.filter.name (← evaluate source)
    let test item := do return truth (← Run.withArgument binder.slot item (evaluate body))
    return .ofItems (source.type S).element (← Run.keep test items)
  | .select source binder body => do
    let items ← itemsFor S SequenceOperator.select.name (← evaluate source)
    return .ofItems (body.type S)
      (← Run.mapItems (fun item => Run.withArgument binder.slot item (evaluate body)) items)
  | .sort source descending binder body => do
    let items ← itemsFor S (SequenceOperator.sort descending).name (← evaluate source)
    let keyOf item := do return (← Run.withArgument binder.slot item (evaluate body), item)
    return .ofItems (source.type S).element (sortByKeys descending (← Run.mapItems keyOf items))
  | .slice source s count => do
    let items ← itemsFor S s.name (← evaluate source)
    let n ← countOf S (← evaluate count)
    return .ofItems (source.type S).element (cut s n items)
  | .find source finder => do
    answerAll finder (← itemsFor S finder.name (← evaluate source))
  | .findWhere source finder binder body => do
    let items ← itemsFor S finder.name (← evaluate source)
    let test item := do return truth (← Run.withArgument binder.slot item (evaluate body))
    answerWhere finder test items

/-- The values of the arguments of a method, from left to right. -/
def evaluateAll : List (Plan κ ρ) → Run κ ρ (List (Value κ ρ))
  | [] => pure []
  | p :: more => do
    let v ← evaluate p
    let rest ← evaluateAll more
    return v :: rest

end

/-- The result of a plan that is run by itself, on an empty stack. -/
def execute (p : Plan κ ρ) : Except QueryError (Value κ ρ) :=
  match (evaluate S p).run [] with
  | (.ok v, _) => .ok v
  | (.error e, _) => .error (.runtime e)

/-- The result of a query text over a root. -/
def runText [DecidableEq κ] (root : Root κ ρ) (query : String) : Except QueryError (Value κ ρ) := do
  execute S (← compileText S root query)

end Plan

end CommitQuery
