-- From queries to plans. Names are resolved by types alone, starting from the
-- type of the root collection, so nothing here knows a particular record.
import CommitQuery.Plan.Basic
import CommitQuery.Plan.Error

namespace CommitQuery

open Query

/-- The collection that queries start from, under its name. The name is
case-sensitive. -/
structure Root (κ ρ : Type) where
  name : String
  element : ValueType κ
  items : List (Value κ ρ)

variable {κ ρ : Type}

/-- The root as a value. -/
def Root.value (root : Root κ ρ) : Value κ ρ := .ofItems root.element root.items

/-- The type of the root. -/
def Root.type (root : Root κ ρ) : ValueType κ := .sequence root.element

/-- The lambda parameters in scope, innermost first. -/
abbrev Scope (κ : Type) := List (Binder κ)

/-- The innermost parameter of a name. -/
def Scope.lookup? (scope : Scope κ) (name : String) : Option (Binder κ) :=
  scope.find? (·.name = name)

/-- A new parameter, whose slot is the number of parameters around it. -/
def Scope.bind (scope : Scope κ) (name : String) (type : ValueType κ) : Binder κ :=
  ⟨name, scope.length, type⟩

namespace Plan

variable [DecidableEq κ] (S : Schema κ ρ) (root : Root κ ρ)

/-! ## Names -/

/-- A bare name: the innermost parameter of that name, else the root. -/
def ofName (scope : Scope κ) (name : String) : Except QueryError (Plan κ ρ) :=
  match scope.lookup? name with
  | some binder => .ok (.parameter binder)
  | none =>
    if name = root.name then .ok (.constant root.value) else .error (.unknownIdentifier name)

/-- A member of a target, found by the target's type. -/
def ofMember (target : Plan κ ρ) (name : String) : Except QueryError (Plan κ ρ) :=
  match S.findMember? (target.type S) name with
  | some m => .ok (.member target m)
  | none => .error (.memberNotFound name (S.typeName (target.type S)))

/-! ## Operators between operands -/

/-- Two numeric operands in the wider of their widths. -/
def widen (left right : Plan κ ρ) : Plan κ ρ × Plan κ ρ :=
  match left.type S, right.type S with
  | .int, .long => (left.toWidth S .long, right)
  | .long, .int => (left, right.toWidth S .long)
  | _, _ => (left, right)

/-- Whether operands of two types can be compared: Null with everything, but for
equality only; numbers and timestamps in every way; texts and conditions for equality. -/
def comparable (op : Comparison) (left right : ValueType κ) : Bool :=
  if left = .null ∨ right = .null then op.isEquality
  else if left ≠ right then false
  else match left with
    | .int | .long | .timestamp => true
    | .text | .bool => op.isEquality
    | _ => false

/-- Two operands joined by an operator, if their types fit it. -/
def ofOperator (left : Plan κ ρ) (op : Operator) (right : Plan κ ρ) :
    Except QueryError (Plan κ ρ) :=
  match op with
  | .connect c =>
    if left.type S = .bool ∧ right.type S = .bool then .ok (.logical left c right)
    else .error (.unsupportedOperator op (S.typeName (left.type S)) (S.typeName (right.type S)))
  | .compare c =>
    let (left, right) := widen S left right
    if comparable c (left.type S) (right.type S) then .ok (.compare left c right)
    else .error (.unsupportedOperator op (S.typeName (left.type S)) (S.typeName (right.type S)))

/-! ## Method calls -/

/-- Whether an argument of a type can be passed for a parameter: of the same type,
an `Int` for a `Long`, and Null for everything. -/
def accepts (parameter argument : ValueType κ) : Bool :=
  parameter = argument || (parameter = .long && argument = .int) || argument = .null

/-- Whether a list of arguments can be passed for the parameters of a method. -/
def acceptsAll (parameters arguments : List (ValueType κ)) : Bool :=
  (parameters.zip arguments).all fun (p, a) => accepts p a

/-- An argument in the width that its parameter asks for. -/
def coerce (argument : Plan κ ρ) (parameter : ValueType κ) : Plan κ ρ :=
  if (argument.type S).isNumeric then
    match parameter with
    | .int => argument.toWidth S .int
    | .long => argument.toWidth S .long
    | _ => argument
  else argument

/-- The method among candidates that arguments of given types are passed to: the
first whose parameters have just these types, else the first that accepts them. -/
def chooseMethod? (candidates : List (Method κ ρ)) (types : List (ValueType κ)) :
    Option (Method κ ρ) :=
  (candidates.find? (·.parameters = types)).or
    (candidates.find? fun m => acceptsAll m.parameters types)

/-- A call of a method of the target's type. -/
def ofCall (target : Plan κ ρ) (name : String) (arguments : List (Plan κ ρ)) :
    Except QueryError (Plan κ ρ) :=
  match S.findMethods (target.type S) name arguments.length with
  | [] => .error (.methodNotFound name (S.typeName (target.type S)))
  | first :: more =>
    match chooseMethod? (first :: more) (arguments.map (·.type S)) with
    | some method => .ok (.invoke target method (arguments.zipWith (coerce S) method.parameters))
    | none =>
      .error (.argumentShape first.name ("arguments matching " ++ S.signature first))

/-! ## Sequence operators -/

/-- What an operator asks for as its argument, on a sequence of items of a type. -/
def expectedArgument (element : ValueType κ) : SequenceOperator → String
  | .filter => predicate
  | .select => "a selector lambda \x60" ++ S.typeName element ++ " => R\x60"
  | .sort _ => "a key selector \x60" ++ S.typeName element ++ " => K\x60 with an orderable K"
  | .slice _ => "a single integer count"
  | .find _ => "no arguments or " ++ predicate
where
  predicate : String := "a predicate \x60" ++ S.typeName element ++ " => Bool\x60"

/-- The error of an operator with another argument than it asks for. -/
def badArgument {α : Type} (element : ValueType κ) (op : SequenceOperator) :
    Except QueryError α :=
  .error (.argumentShape op.name (expectedArgument S element op))

/-- An operator with a compiled lambda, if the type of its result fits. -/
def ofLambda (source : Plan κ ρ) (element : ValueType κ) (op : SequenceOperator)
    (binder : Binder κ) (body : Plan κ ρ) : Except QueryError (Plan κ ρ) :=
  match op with
  | .filter =>
    if body.type S = .bool then .ok (.filter source binder body) else badArgument S element op
  | .select => .ok (.select source binder body)
  | .sort descending =>
    if (body.type S).isOrderable then .ok (.sort source descending binder body)
    else badArgument S element op
  | .find finder =>
    if body.type S = .bool then .ok (.findWhere source finder binder body)
    else badArgument S element op
  | .slice _ => badArgument S element op

/-- A slice with a compiled count; a `Long` count is narrowed to an `Int`. -/
def ofCount (source : Plan κ ρ) (element : ValueType κ) (s : Slice) (count : Plan κ ρ) :
    Except QueryError (Plan κ ρ) :=
  match count.type S with
  | .int | .long => .ok (.slice source s (count.toWidth S .int))
  | _ => badArgument S element (.slice s)

/-! ## Queries -/

/-- A lambda cannot stand where a value is needed. -/
def requireValue (place : LambdaPlace) (e : Expr) : Except QueryError Unit :=
  if e.isLambda then .error (.misplacedLambda place) else .ok ()

mutual

/-- The plan of a part of a query. `element` is the type of the items of the
innermost operator whose argument this is, if there is one; a lambda there is a
function of such an item, and any other lambda one of an item of the root. -/
def compileIn (scope : Scope κ) (element : Option (ValueType κ)) :
    Expr → Except QueryError (Plan κ ρ)
  | .name s => ofName root scope s
  | .text s => .ok (.constant (.text s))
  | .number n => .ok (.constant (.int n))
  | .member target field => do
    requireValue .memberTarget target
    ofMember S (← compileIn scope element target) field
  | .call target method arguments => do
    requireValue .methodTarget target
    let source ← compileIn scope element target
    match source.type S with
    | .sequence item =>
      match SequenceOperator.ofName? method with
      | none => .error (.methodNotFound method (S.typeName (.sequence item)))
      | some op => compileOperator scope source item op arguments
    | _ => ofCall S source method (← compileAll scope element arguments)
  | .lambda x body => do
    let binder := scope.bind x (element.getD root.element)
    requireValue .lambdaBody body
    return .lambda binder (← compileIn (binder :: scope) element body)
  | .binary left op right => do
    requireValue (.operand op) left
    let l ← compileIn scope element left
    requireValue (.operand op) right
    let r ← compileIn scope element right
    ofOperator S l op r

/-- The plans of the arguments of a method. -/
def compileAll (scope : Scope κ) (element : Option (ValueType κ)) :
    List Expr → Except QueryError (List (Plan κ ρ))
  | [] => .ok []
  | e :: more => do
    let p ← compileIn scope element e
    return p :: (← compileAll scope element more)

/-- The plan of an operator on a sequence with items of type `item`. -/
def compileOperator (scope : Scope κ) (source : Plan κ ρ) (item : ValueType κ)
    (op : SequenceOperator) : List Expr → Except QueryError (Plan κ ρ)
  | [] =>
    match op with
    | .find finder => .ok (.find source finder)
    | _ => badArgument S item op
  | [.lambda x body] =>
    match op with
    | .slice _ => badArgument S item op
    | _ => do
      let binder := scope.bind x item
      requireValue .lambdaBody body
      ofLambda S source item op binder (← compileIn (binder :: scope) (some item) body)
  | [argument] =>
    match op with
    | .slice s => do ofCount S source item s (← compileIn scope (some item) argument)
    | _ => badArgument S item op
  | _ => badArgument S item op

end

/-- The plan of a whole query. -/
def compile (e : Expr) : Except QueryError (Plan κ ρ) := do
  requireValue .wholeQuery e
  compileIn S root [] none e

/-- The plan of a query text. -/
def compileText (query : String) : Except QueryError (Plan κ ρ) :=
  match Expr.parse query with
  | .ok e => compile S root e
  | .error bad => .error (.malformed bad)

end Plan

end CommitQuery
