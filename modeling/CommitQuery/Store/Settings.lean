-- What the user can set, and the file that it is set in. A setting that the file
-- leaves out keeps its standard value; keys that name no setting do not count.
import CommitQuery.Toml.Reader
import CommitQuery.Toml.Writer

namespace CommitQuery

/-- The settings: the name of the root collection, how many commits are read at
most, how many queries the history keeps, and how results are shown. -/
structure Settings where
  rootName : String
  maxCommits : Option UInt64
  historySize : UInt64
  color : Bool
  authorWidth : UInt64
  messageWidth : UInt64
deriving DecidableEq, Repr

namespace Settings

/-- The settings of a user who set nothing. -/
def standard : Settings := ⟨"Commits", none, 1000, true, 15, 35⟩

/-! ## Reading -/

def readText : Toml → Option String
  | .text s => some s
  | _ => none

def readBool : Toml → Option Bool
  | .bool b => some b
  | _ => none

/-- A number of things: an integer that is not negative. -/
def readCount : Toml → Option UInt64
  | .integer n => if 0 ≤ n then some n.toUInt64 else none
  | _ => none

/-- The setting of a key, or its standard value where the key is left out. -/
def setting {α : Type} (entries : Toml.Entries) (key : String) (read : Toml → Option α)
    (otherwise : α) : Option α :=
  match Toml.find? key entries with
  | some value => read value
  | none => some otherwise

/-- The settings that the entries of a file make. -/
def ofEntries (entries : Toml.Entries) : Option Settings := do
  return {
    rootName := ← setting entries "root_name" readText standard.rootName
    maxCommits := ← setting entries "max_commits" (fun v => (readCount v).map some)
      standard.maxCommits
    historySize := ← setting entries "history_size" readCount standard.historySize
    color := ← setting entries "color" readBool standard.color
    authorWidth := ← setting entries "author_width" readCount standard.authorWidth
    messageWidth := ← setting entries "message_width" readCount standard.messageWidth }

/-- The settings of a file, or of no file. -/
def load? : Option String → Option Settings
  | none => some standard
  | some file => (Toml.parse file).bind ofEntries

/-! ## Writing -/

/-- A line that sets a key. -/
def line (key : String) (value : List Char) : String := key ++ " = " ++ String.ofList value ++ "\n"

/-- A line that sets a number; a file holds signed integers of 64 bits. -/
def countLine (key : String) (n : UInt64) : Option String :=
  if n.toNat < UInt64.size / 2 then some (line key (toString n.toNat).toList) else none

/-- The file that holds the settings, if their numbers fit in one. -/
def save? (s : Settings) : Option String := do
  let maxCommits ← match s.maxCommits with
    | some n => countLine "max_commits" n
    | none => some ""
  return line "root_name" (Toml.stringText s.rootName.toList) ++ maxCommits ++
    (← countLine "history_size" s.historySize) ++ line "color" (toString s.color).toList ++
    (← countLine "author_width" s.authorWidth) ++ (← countLine "message_width" s.messageWidth)

end Settings

end CommitQuery
