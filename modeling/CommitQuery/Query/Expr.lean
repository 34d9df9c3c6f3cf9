-- Queries as trees, and how a tree is written as text. A string is written in
-- double quotes unless it holds one; operators are written without brackets,
-- because the grammar has none.
import CommitQuery.Query.Token

namespace CommitQuery.Query

/-- A query or a part of one. -/
inductive Expr
  | name (s : String)
  | text (s : String)
  | number (n : Int32)
  | member (target : Expr) (field : String)
  | call (target : Expr) (method : String) (arguments : List Expr)
  | lambda (parameter : String) (body : Expr)
  | binary (left : Expr) (op : Operator) (right : Expr)
deriving Repr

namespace Expr

/-- What error messages call a node. -/
def kind : Expr → String
  | .name _ => "identifier"
  | .text _ => "string literal"
  | .number _ => "number literal"
  | .member _ _ => "member access"
  | .call _ _ _ => "method call"
  | .lambda _ _ => "lambda"
  | .binary _ _ _ => "binary expression"

def isLambda : Expr → Bool
  | .lambda _ _ => true
  | _ => false

/-! ## Writing -/

/-- The quote that a string is written in. -/
def quoteFor (s : String) : Char := if s.toList.contains '"' then '\'' else '"'

mutual

/-- The characters of a query. -/
def spelling : Expr → List Char
  | .name s => s.toList
  | .text s => quoteFor s :: s.toList ++ [quoteFor s]
  | .number n => (toString n.toInt).toList
  | .member target field => target.spelling ++ '.' :: field.toList
  | .call target method arguments =>
    target.spelling ++ '.' :: method.toList ++ '(' :: spellings arguments ++ [')']
  | .lambda parameter body => parameter.toList ++ " => ".toList ++ body.spelling
  | .binary left op right =>
    left.spelling ++ ' ' :: op.symbol.toList ++ ' ' :: right.spelling

/-- The characters of a list of arguments, with a comma and a space in between. -/
def spellings : List Expr → List Char
  | [] => []
  | [e] => e.spelling
  | e :: more => e.spelling ++ ", ".toList ++ spellings more

end

/-- The text of a query. -/
def toText (e : Expr) : String := String.ofList e.spelling

end Expr

end CommitQuery.Query
