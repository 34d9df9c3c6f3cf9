-- What the prompt tells about itself: the commands, how queries look, and the
-- examples beside the user's bookmarks.
import CommitQuery.Plan.Operator
import CommitQuery.Prompt.Command
import CommitQuery.Store.Examples
import CommitQuery.Store.Settings

namespace CommitQuery.Help

open CommitQuery.Text

/-- How many characters the name of a command is filled up to. -/
def commandWidth : Nat := 12

def commandLine (name description : String) : String :=
  "  " ++ fillEnd commandWidth name ++ " " ++ description ++ "\n"

/-- The text of help for a root collection of some name. -/
def text (root : String) : String :=
  "Commands:\n" ++ String.join (Command.offered.map fun (name, line) => commandLine name line) ++
    "\nQueries:\n" ++
    "  Start from " ++ root ++ " and chain operators with '.', e.g.\n" ++
    "    " ++ root ++ ".Where(c => c.Message.Contains(\"fix\")).Take(5)\n" ++
    "  Operators: " ++ joinWith ", " (SequenceOperator.all.map (·.name)) ++ "\n" ++
    "  Comparisons: == != > < >= <=, combined with && and ||\n" ++
    "  Strings use double or single quotes. Tab completes names.\n"

/-! ## Examples -/

/-- A query of the standard root, made to start at another one. -/
def withRoot (root query : String) : String :=
  match afterStart? Settings.standard.rootName.toList query.toList with
  | some rest => root ++ String.ofList rest
  | none => query

/-- The characters of the longest query. -/
def queryWidth (root : String) (list : List Bookmark) : Nat :=
  (list.map fun b => (withRoot root b.query).toList.length).foldl max 0

def line (width : Nat) (query title : String) : String :=
  "    " ++ fillEnd width query ++ "  " ++ title ++ "\n"

def heading (title : String) : String := "\n  — " ++ title ++ " —\n"

/-- A group of examples, with their descriptions. -/
def group (root : String) (width : Nat) (examples : List Bookmark) (tag title : String) : String :=
  heading title ++ String.join ((examples.filter (·.hasTag tag)).map fun b =>
    line width (withRoot root b.query) (b.description.getD ""))

/-- The user's bookmarks, with their names. -/
def saved (width : Nat) (bookmarks : List Bookmark) : String :=
  if bookmarks.isEmpty then ""
  else heading "Saved Queries" ++ String.join (bookmarks.map fun b => line width b.query b.name)

/-- Examples in their groups, and the bookmarks if there are any. -/
def examples (list bookmarks : List Bookmark) (root : String) : String :=
  let width := queryWidth root (list ++ bookmarks)
  "Example Queries:\n" ++
    String.join (Bookmark.groups.map fun (tag, title) => group root width list tag title) ++
    saved width bookmarks

end CommitQuery.Help
