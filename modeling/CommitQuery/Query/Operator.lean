-- The operators between two operands.

namespace CommitQuery.Query

/-- Operators that compare two values. -/
inductive Comparison
  | equal
  | notEqual
  | greater
  | less
  | greaterOrEqual
  | lessOrEqual
deriving DecidableEq, Repr

/-- Operators that join two conditions. -/
inductive Connective
  | and
  | or
deriving DecidableEq, Repr

/-- Any operator between two operands. -/
inductive Operator
  | compare (c : Comparison)
  | connect (c : Connective)
deriving DecidableEq, Repr

def Comparison.symbol : Comparison → String
  | .equal => "=="
  | .notEqual => "!="
  | .greater => ">"
  | .less => "<"
  | .greaterOrEqual => ">="
  | .lessOrEqual => "<="

/-- Whether the comparison asks for equality only, which every type answers. -/
def Comparison.isEquality : Comparison → Bool
  | .equal | .notEqual => true
  | _ => false

def Connective.symbol : Connective → String
  | .and => "&&"
  | .or => "||"

def Operator.symbol : Operator → String
  | .compare c => c.symbol
  | .connect c => c.symbol

end CommitQuery.Query
