-- The command line: one query over the commits of a log that stands on standard
-- input. Results go to standard output, errors to standard error.
import CommitQuery.Commit.Log
import CommitQuery.Prompt.Session

namespace CommitQuery

/-- What the command line asks for. -/
structure Arguments where
  query : Option String
  format : Format
  plain : Bool
  maxCommits : Option UInt64
  settingsFile : Option String
deriving Repr

namespace Arguments

/-- No arguments. -/
def empty : Arguments := ⟨none, .table, false, none, none⟩

def formatOf? : String → Option Format
  | "table" => some .table
  | "json" => some .json
  | "csv" => some .csv
  | _ => none

/-- The arguments with those of a list added, if all of them are known. -/
def add (a : Arguments) : List String → Option Arguments
  | [] => some a
  | "--no-color" :: rest => add { a with plain := true } rest
  | "--format" :: word :: rest =>
    match formatOf? word with
    | some format => add { a with format := format } rest
    | none => none
  | "--max-count" :: word :: rest =>
    match Session.count? word with
    | some n => add { a with maxCommits := some (UInt64.ofNat n) } rest
    | none => none
  | "--settings" :: path :: rest => add { a with settingsFile := some path } rest
  | "--query" :: query :: rest => add { a with query := some query } rest
  | _ => none

def usage : String :=
  "Usage: --query <query> [--format table|json|csv] [--max-count <n>] [--no-color] " ++
    "[--settings <file>]\n"

/-- The settings of a file, with those of the arguments in place of its own. -/
def settings (a : Arguments) (file : Option String) : Settings :=
  let s := (Settings.load? file).getD Settings.standard
  { s with
    color := s.color && !a.plain
    maxCommits := a.maxCommits.or s.maxCommits }

end Arguments

/-- What a log holds, as far as the settings read it. -/
def Settings.loadLog (s : Settings) (log : String) : Loaded Empty Empty :=
  match Log.read log with
  | .ok commits =>
    let commits := match s.maxCommits with
      | some n => commits.take n.toNat
      | none => commits
    .ok ⟨s.rootName, .record .commit, commits.map fun c => .ofRecord (.commit c)⟩
  | .error e => .error e.chain

/-- Runs the query of the arguments and gives the exit code. -/
def runCommandLine (list : List String) : IO UInt32 := do
  let output ← IO.getStdout
  let errors ← IO.getStderr
  match Arguments.empty.add list with
  | some ⟨some query, format, plain, maxCommits, settingsFile⟩ =>
    let file ← settingsFile.mapM fun path => IO.FS.readFile path
    let settings := Arguments.settings ⟨query, format, plain, maxCommits, settingsFile⟩ file
    let log ← (← IO.getStdin).readToEnd
    let session := Session.fresh settings
    match Session.evaluate? Extension.nothing (settings.loadLog log) session query format with
    | some ⟨text, true⟩ =>
      output.putStr text
      return 0
    | some ⟨text, false⟩ =>
      errors.putStr text
      return 1
    | none => return 1
  | _ =>
    errors.putStr Arguments.usage
    return 2

end CommitQuery

def main (list : List String) : IO UInt32 := CommitQuery.runCommandLine list
