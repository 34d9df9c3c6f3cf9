-- The operators of sequences: the part of the language that every sequence
-- answers, whatever its items are.
import CommitQuery.Text.Class

namespace CommitQuery

/-- Which end of a sequence a count keeps or drops. -/
inductive Slice
  | take
  | skip
deriving DecidableEq, Repr

/-- What is asked about the items, or about those that a predicate accepts. -/
inductive Finder
  | first
  | firstOrDefault
  | any
  | count
deriving DecidableEq, Repr

inductive SequenceOperator
  | filter
  | select
  | sort (descending : Bool)
  | slice (s : Slice)
  | find (f : Finder)
deriving DecidableEq, Repr

def Slice.name : Slice → String
  | .take => "Take"
  | .skip => "Skip"

def Finder.name : Finder → String
  | .first => "First"
  | .firstOrDefault => "FirstOrDefault"
  | .any => "Any"
  | .count => "Count"

namespace SequenceOperator

def name : SequenceOperator → String
  | .filter => "Where"
  | .select => "Select"
  | .sort false => "OrderBy"
  | .sort true => "OrderByDescending"
  | .slice s => s.name
  | .find f => f.name

/-- All operators, in the order they are offered in. -/
def all : List SequenceOperator :=
  [.filter, .select, .sort false, .sort true, .slice .take, .slice .skip, .find .first,
   .find .firstOrDefault, .find .any, .find .count]

/-- The operator of a name, in any case of ASCII letters. -/
def ofName? (name : String) : Option SequenceOperator :=
  all.find? fun op => Text.equalsIgnoringAsciiCase op.name name

end SequenceOperator

end CommitQuery
