-- The search for changed lines that a query makes: a result shows the lines that
-- its first content test with a literal text asks for.
import CommitQuery.Query.Expr

namespace CommitQuery.Query

open CommitQuery.Text

/-- A text to look for in added lines, deleted lines or both. -/
structure ContentSearch where
  text : String
  added : Bool
  deleted : Bool
deriving DecidableEq, Repr

namespace ContentSearch

/-- The kinds of lines, added and deleted, that a content test reads. -/
def linesRead? (method : String) : Option (Bool × Bool) :=
  match asciiLowercase method with
  | "addedcontains" => some (true, false)
  | "deletedcontains" => some (false, true)
  | "contentcontains" => some (true, true)
  | _ => none

/-- The search of one call, if it is a content test with a literal text. -/
def ofCall? (method : String) (arguments : List Expr) : Option ContentSearch :=
  match linesRead? method, arguments with
  | some (added, deleted), .text s :: _ => some ⟨s, added, deleted⟩
  | _, _ => none

mutual

/-- The first content test of a query: a call goes before its target, the target
before the arguments, and left before right. -/
def find? : Expr → Option ContentSearch
  | .call target method arguments =>
    ((ofCall? method arguments).or (find? target)).or (findIn? arguments)
  | .member target _ => find? target
  | .lambda _ body => find? body
  | .binary left _ right => (find? left).or (find? right)
  | _ => none

/-- The first content test of a list of queries. -/
def findIn? : List Expr → Option ContentSearch
  | [] => none
  | e :: more => (find? e).or (findIn? more)

end

end ContentSearch

end CommitQuery.Query
