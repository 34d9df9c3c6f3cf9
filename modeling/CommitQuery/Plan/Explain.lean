-- Plans as trees to look at: one node for each part of a plan and for each lambda
-- of an operator, written one to a line and indented by depth.
import CommitQuery.Plan.Basic
import CommitQuery.Text.Quoted

namespace CommitQuery

open Query

/-- A node of the tree, with its depth below the root. -/
inductive PlanNode
  | node (title resultType : String) (details : List String) (children : List PlanNode)
      (depth : Nat)
deriving Repr

variable {κ ρ : Type}

namespace Plan

variable (S : Schema κ ρ)

/-- The node of a constant: the root collection by its length, a text in quotes. -/
def explainConstant (value : Value κ ρ) (depth : Nat) : PlanNode :=
  let typeName := S.typeName (S.typeOf value)
  match value with
  | .sequence _ items _ => .node "Source" typeName [toString items.length ++ " items"] [] depth
  | .text s => .node "Constant" typeName [Text.quoted s] [] depth
  | value => .node "Constant" typeName [S.shown value] [] depth

/-- The node of a lambda over the node of its body. -/
def explainLambda (binder : Binder κ) (result : ValueType κ) (body : PlanNode) (depth : Nat) :
    PlanNode :=
  .node ("Lambda " ++ binder.name ++ " => ...")
    (S.typeName binder.type ++ " => " ++ S.typeName result)
    ["slot " ++ toString binder.slot] [body] depth

mutual

/-- The tree of a plan whose root stands at some depth. -/
def explainAt (depth : Nat) (p : Plan κ ρ) : PlanNode :=
  let typeName := S.typeName (p.type S)
  match p with
  | .constant value => explainConstant S value depth
  | .parameter binder =>
    .node ("Parameter " ++ binder.name) typeName ["slot " ++ toString binder.slot] [] depth
  | .member target m =>
    .node ("Member " ++ m.name) typeName [] [explainAt (depth + 1) target] depth
  | .invoke target method arguments =>
    .node ("Call " ++ method.name) typeName [S.signature method]
      (explainAt (depth + 1) target :: explainAll (depth + 1) arguments) depth
  | .convert inner _ =>
    .node ("Convert to " ++ typeName) typeName [] [explainAt (depth + 1) inner] depth
  | .compare left op right =>
    .node ("Compare " ++ op.symbol) typeName []
      [explainAt (depth + 1) left, explainAt (depth + 1) right] depth
  | .logical left op right =>
    .node ("Logical " ++ op.symbol) typeName ["short-circuit"]
      [explainAt (depth + 1) left, explainAt (depth + 1) right] depth
  | .lambda binder body =>
    explainLambda S binder (body.type S) (explainAt (depth + 1) body) depth
  | .filter source binder body =>
    .node SequenceOperator.filter.name typeName []
      [explainAt (depth + 1) source,
       explainLambda S binder (body.type S) (explainAt (depth + 2) body) (depth + 1)] depth
  | .select source binder body =>
    .node SequenceOperator.select.name typeName []
      [explainAt (depth + 1) source,
       explainLambda S binder (body.type S) (explainAt (depth + 2) body) (depth + 1)] depth
  | .sort source descending binder body =>
    .node (SequenceOperator.sort descending).name typeName ["stable"]
      [explainAt (depth + 1) source,
       explainLambda S binder (body.type S) (explainAt (depth + 2) body) (depth + 1)] depth
  | .slice source s count =>
    .node s.name typeName []
      [explainAt (depth + 1) source, explainAt (depth + 1) count] depth
  | .find source finder => .node finder.name typeName [] [explainAt (depth + 1) source] depth
  | .findWhere source finder binder body =>
    .node finder.name typeName []
      [explainAt (depth + 1) source,
       explainLambda S binder (body.type S) (explainAt (depth + 2) body) (depth + 1)] depth

def explainAll (depth : Nat) : List (Plan κ ρ) → List PlanNode
  | [] => []
  | p :: more => explainAt depth p :: explainAll depth more

end

/-- The tree of a plan. -/
def explain (p : Plan κ ρ) : PlanNode := explainAt S 0 p

end Plan

namespace PlanNode

def depth : PlanNode → Nat
  | .node _ _ _ _ depth => depth

mutual

/-- The number of nodes of a tree. -/
def size : PlanNode → Nat
  | .node _ _ _ children _ => 1 + sizes children

def sizes : List PlanNode → Nat
  | [] => 0
  | n :: more => size n + sizes more

end

/-- What stands in front of a node's line; the root has no arrow. -/
def lead (depth : Nat) : String :=
  Text.repeated (3 * depth) ' ' ++ if depth = 0 then "" else "-> "

/-- What stands in front of a detail of a node. -/
def detailLead (depth : Nat) : String :=
  Text.repeated (3 * depth) ' ' ++ if depth = 0 then "  " else "     "

mutual

/-- The lines of a tree: a node, its details and its children below it. -/
def lines : PlanNode → List String
  | .node title resultType details children depth =>
    (lead depth ++ title ++ "  (" ++ resultType ++ ")") ::
      details.map (detailLead depth ++ ·) ++ childLines children

def childLines : List PlanNode → List String
  | [] => []
  | n :: more => lines n ++ childLines more

end

/-- A tree as text, every line ended by a newline. -/
def render (n : PlanNode) : String := String.join ((lines n).map (· ++ "\n"))

end PlanNode

end CommitQuery
