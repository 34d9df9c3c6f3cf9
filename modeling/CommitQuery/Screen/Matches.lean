-- The panel below a table of commits: the changed lines that the query searched
-- for, each with its neighbours and with the match made bold.
import CommitQuery.Commit.Basic
import CommitQuery.Screen.Layout
import CommitQuery.Text.Case

namespace CommitQuery.Screen

open CommitQuery.Text

/-- How many columns of a line are shown. -/
def matchLineWidth : Nat := 80

/-- A line with the first occurrence of a text made bold, whatever its case. The
place is found in the lower case of the line and counted in bytes, so it is used
only where lower case keeps the number of bytes. -/
def highlight (o : Options) (line search : List Char) : List Char :=
  if !o.color || search.isEmpty then line
  else
    let lower := lowerList line
    if utf8Length lower ≠ utf8Length line then line
    else match splitFirst (lowerList search) lower with
      | none => line
      | some (start, _) =>
        match splitBytes? (utf8Length start) line with
        | none => line
        | some (before, rest) =>
          match splitBytes? (utf8Length search) rest with
          | none => line
          | some (hit, after) => before ++ o.bold highlighted hit ++ after

/-- A line next to a match. -/
def neighbour (o : Options) : Option String → List Char
  | some text => "      ".toList ++ o.paint muted (truncate text.toList matchLineWidth) ++ ['\n']
  | none => []

/-- A match: its file and sign, and the line between its neighbours. -/
def matchedLine (o : Options) (m : MatchedLine) : List Char :=
  let (sign, color) := match m.kind with
    | .deleted => ("(-)", failure)
    | _ => ("(+)", success)
  "  ".toList ++ o.paint muted m.path.toList ++ ' ' :: o.bold color sign.toList ++ '\n' ::
    neighbour o m.before ++
    "    ".toList ++ o.bold color ['→'] ++ ' ' ::
      highlight o (truncate m.text.toList matchLineWidth) m.search.toList ++ '\n' ::
    neighbour o m.after

/-- The matches of one commit, if it has any. -/
def commitMatches (o : Options) (c : Commit) (found : List MatchedLine) : List Char :=
  if found.isEmpty then []
  else
    '\n' :: o.paint success c.shortSha.toList ++ ' ' :: o.paint muted c.subject.toList ++
      '\n' :: found.flatMap (matchedLine o)

/-- The matches of a list of commits, with their number. -/
def matchPanel (o : Options) (commits : List Commit) (search : Query.ContentSearch) : List Char :=
  let found := commits.map fun c =>
    (c, c.diff.matchingLines search.text search.added search.deleted)
  '\n' :: o.bold information "Matching lines for".toList ++ " '".toList ++
    o.paint warning search.text.toList ++ "':\n".toList ++
    found.flatMap (fun (c, lines) => commitMatches o c lines) ++
    '\n' :: footer o (total (found.map fun (_, lines) => lines.length)) "matching location"

end CommitQuery.Screen
