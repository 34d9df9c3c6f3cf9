-- Errors of queries: malformed text, names and shapes that do not fit the
-- schema, and what can go wrong while a plan runs.
import CommitQuery.Query.Reader

namespace CommitQuery

open Query

/-- Where a lambda cannot stand. -/
inductive LambdaPlace
  | wholeQuery
  | memberTarget
  | methodTarget
  | lambdaBody
  | operand (op : Operator)
deriving DecidableEq, Repr

def LambdaPlace.shown : LambdaPlace → String
  | .wholeQuery => "as a whole query"
  | .memberTarget => "as a member target"
  | .methodTarget => "as a method target"
  | .lambdaBody => "as the body of a lambda"
  | .operand op => "as an operand of '" ++ op.symbol ++ "'"

/-- What can go wrong while a plan runs. -/
inductive RuntimeError
  | unboundParameter (name : String)
  | memberOfNull (member : String)
  | methodOfNull (method : String)
  | methodFailed (method message : String)
  | operatorOfNull (operator : String)
  | operatorOfOther (operator typeName : String)
  | noMatch
  | noElement
  | badCount (shown : String)
  | lambdaAsValue (parameter : String)
deriving DecidableEq, Repr

def RuntimeError.message : RuntimeError → String
  | .unboundParameter name => "parameter '" ++ name ++ "' is not bound"
  | .memberOfNull member => "cannot read '" ++ member ++ "' of a null value"
  | .methodOfNull method => "cannot call '" ++ method ++ "' on a null value"
  | .methodFailed method message => method ++ ": " ++ message
  | .operatorOfNull operator => "cannot call " ++ operator ++ " on a null value"
  | .operatorOfOther operator typeName =>
    operator ++ " called on " ++ typeName ++ " instead of a sequence"
  | .noMatch => "sequence contains no matching element"
  | .noElement => "sequence contains no elements"
  | .badCount shown => "count must be an integer, got " ++ shown
  | .lambdaAsValue parameter => "lambda '" ++ parameter ++ "' cannot be evaluated as a value"

/-- Why a query has no result. Types are given by their names. -/
inductive QueryError
  | malformed (e : Malformed)
  | unknownIdentifier (name : String)
  | memberNotFound (member typeName : String)
  | methodNotFound (method typeName : String)
  | argumentShape (operator expected : String)
  | unsupportedOperator (op : Operator) (left right : String)
  | misplacedLambda (place : LambdaPlace)
  | runtime (e : RuntimeError)
deriving DecidableEq, Repr

/-- The three groups of errors. -/
inductive ErrorCategory
  | malformed
  | resolution
  | runtime
deriving DecidableEq, Repr

def ErrorCategory.title : ErrorCategory → String
  | .malformed => "Syntax Error"
  | .resolution => "Query Error"
  | .runtime => "Runtime Error"

namespace QueryError

def category : QueryError → ErrorCategory
  | .malformed _ => .malformed
  | .runtime _ => .runtime
  | _ => .resolution

def message : QueryError → String
  | .malformed e => e.message
  | .unknownIdentifier name => "unknown identifier '" ++ name ++ "'"
  | .memberNotFound member typeName =>
    "member '" ++ member ++ "' not found on type " ++ typeName
  | .methodNotFound method typeName =>
    "method '" ++ method ++ "' not found on type " ++ typeName
  | .argumentShape operator expected => operator ++ " expects " ++ expected
  | .unsupportedOperator op left right =>
    "operator '" ++ op.symbol ++ "' is not supported between " ++ left ++ " and " ++ right
  | .misplacedLambda place => "lambda is not supported " ++ place.shown
  | .runtime e => e.message

end QueryError

end CommitQuery
