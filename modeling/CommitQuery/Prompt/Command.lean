-- What a line typed at the prompt asks for. The first word decides; a line that
-- is no command is a query.
import CommitQuery.Text.Case

namespace CommitQuery

inductive Command
  | empty
  | help
  | examples
  | history (argument : Option String)
  | explain (query : String)
  | save (name : String)
  | clear
  | exit
  | query (text : String)
deriving DecidableEq, Repr

namespace Command

open CommitQuery.Text

/-- The word that asks for the plan of a query. -/
def explainWord : List Char := "explain".toList

/-- The query behind the word `explain`, if the line starts with it, in any case of
letters, and nothing but a blank follows it. -/
def explained? (line : String) : Option String :=
  let line := trimStart line.toList
  if (line.take explainWord.length).map asciiLower ≠ explainWord then none
  else
    let rest := line.drop explainWord.length
    if (rest.head?.map isBlank).getD true then some (trim (String.ofList rest)) else none

/-- The first word of a line and the trimmed rest. -/
def firstWord (line : List Char) : List Char × List Char :=
  let rest := line.dropWhile fun c => !isBlank c
  (line.takeWhile fun c => !isBlank c, trimEnd (trimStart rest))

/-- The command of a line. -/
def parse (line : String) : Command :=
  let line := trim line
  if line.isEmpty then .empty
  else match explained? line with
    | some q => .explain q
    | none =>
      let (word, rest) := firstWord line.toList
      let argument := String.ofList rest
      match lowercase (String.ofList word) with
      | "help" | "h" | "?" => .help
      | "examples" | "ex" | "samples" => .examples
      | "history" | "hist" => .history (if rest.isEmpty then none else some argument)
      | "save" => .save argument
      | "clear" | "cls" => .clear
      | "exit" | "quit" => .exit
      | _ => .query line

/-- The commands that completion offers, each with a line of help. -/
def offered : List (String × String) :=
  [("help", "Show this help (h, ?)"),
   ("examples", "Show example queries and saved bookmarks (ex, samples)"),
   ("history", "Show recent queries: history [count | text] (hist)"),
   ("explain", "Show the compiled plan: explain <query>"),
   ("save", "Bookmark the last successful query: save <name>"),
   ("clear", "Clear the screen (cls)"),
   ("exit", "Quit the REPL (quit, Ctrl-D)")]

end Command

end CommitQuery
