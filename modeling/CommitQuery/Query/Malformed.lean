-- The error of a text that is not a query: where it stops making sense, what
-- could stand there and what stands there instead.
import CommitQuery.Text.Pieces

namespace CommitQuery.Query

/-- A malformed query. The position counts characters from 0. -/
structure Malformed where
  position : Nat
  expected : String
  found : String
deriving DecidableEq, Repr

namespace Malformed

/-- The message of the error; it counts positions from 1, as editors do. -/
def message (e : Malformed) : String :=
  "expected " ++ e.expected ++ ", found " ++ e.found ++ " at position " ++ toString (e.position + 1)

/-- The query on one line, without its newlines. -/
def shownLine (query : String) : List Char := query.toList.filter (· != '\n')

/-- The column of the caret: the position of the error, but not past the end of
the line shown. -/
def column (e : Malformed) (query : String) : Nat := min e.position (shownLine query).length

/-- The query on one line and, below it, a caret under the place of the error. -/
def pointer (e : Malformed) (query : String) : String :=
  String.ofList (shownLine query ++ '\n' :: List.replicate (e.column query) ' ' ++ ['^'])

end Malformed

end CommitQuery.Query
