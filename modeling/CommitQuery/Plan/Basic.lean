-- Plans: queries with every name resolved. A plan knows the members, methods and
-- types it works with, and each lambda parameter has a slot on the stack of
-- values that a run keeps.
import CommitQuery.Plan.Operator
import CommitQuery.Query.Operator
import CommitQuery.Value.Schema

namespace CommitQuery

open Query

/-- A lambda parameter: its name, the slot its value is found in, and its type. -/
structure Binder (κ : Type) where
  name : String
  slot : Nat
  type : ValueType κ

/-- The two widths of whole numbers. -/
inductive Width
  | int
  | long
deriving DecidableEq, Repr

/-- A compiled query or a part of one. -/
inductive Plan (κ ρ : Type)
  | constant (value : Value κ ρ)
  | parameter (binder : Binder κ)
  | member (target : Plan κ ρ) (member : Member κ ρ)
  | invoke (target : Plan κ ρ) (method : Method κ ρ) (arguments : List (Plan κ ρ))
  | convert (inner : Plan κ ρ) (width : Width)
  | compare (left : Plan κ ρ) (op : Comparison) (right : Plan κ ρ)
  | logical (left : Plan κ ρ) (op : Connective) (right : Plan κ ρ)
  | lambda (binder : Binder κ) (body : Plan κ ρ)
  | filter (source : Plan κ ρ) (binder : Binder κ) (body : Plan κ ρ)
  | select (source : Plan κ ρ) (binder : Binder κ) (body : Plan κ ρ)
  | sort (source : Plan κ ρ) (descending : Bool) (binder : Binder κ) (body : Plan κ ρ)
  | slice (source : Plan κ ρ) (slice : Slice) (count : Plan κ ρ)
  | find (source : Plan κ ρ) (finder : Finder)
  | findWhere (source : Plan κ ρ) (finder : Finder) (binder : Binder κ) (body : Plan κ ρ)

variable {κ ρ : Type}

def Width.type : Width → ValueType κ
  | .int => .int
  | .long => .long

/-- The type of what a finder gives for a sequence with items of a type. -/
def Finder.type (element : ValueType κ) : Finder → ValueType κ
  | .first | .firstOrDefault => element
  | .any => .bool
  | .count => .int

/-- The type of the items of a type; only a sequence has any. -/
def ValueType.element (type : ValueType κ) : ValueType κ := type.element?.getD .null

namespace Plan

variable (S : Schema κ ρ)

/-- The static type of a plan. -/
def type : Plan κ ρ → ValueType κ
  | .constant value => S.typeOf value
  | .parameter binder => binder.type
  | .member _ m => m.type
  | .invoke _ method _ => method.returns
  | .convert _ width => width.type
  | .compare _ _ _ => .bool
  | .logical _ _ _ => .bool
  | .lambda binder body => .function binder.type body.type
  | .filter source _ _ => source.type
  | .select _ _ body => .sequence body.type
  | .sort source _ _ _ => source.type
  | .slice source _ _ => source.type
  | .find source finder => finder.type source.type.element
  | .findWhere source finder _ _ => finder.type source.type.element

/-- A numeric plan with a change of width, unless it has that width already. -/
def toWidth [DecidableEq κ] (p : Plan κ ρ) (width : Width) : Plan κ ρ :=
  if p.type S = width.type then p else .convert p width

end Plan

end CommitQuery
