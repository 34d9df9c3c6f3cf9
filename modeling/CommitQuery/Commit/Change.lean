-- What a commit changes: its files, the lines of each file's patch, and the
-- search for a text among the changed lines. The search ignores case.
import CommitQuery.Text.Case
import CommitQuery.Text.Pieces

namespace CommitQuery

/-- How a commit touched a file. -/
inductive ChangeStatus
  | added
  | deleted
  | modified
  | renamed
  | copied
  | typeChanged
deriving DecidableEq, Repr

def ChangeStatus.name : ChangeStatus → String
  | .added => "Added"
  | .deleted => "Deleted"
  | .modified => "Modified"
  | .renamed => "Renamed"
  | .copied => "Copied"
  | .typeChanged => "TypeChanged"

inductive LineKind
  | added
  | deleted
  | context
deriving DecidableEq, Repr

/-- A line of a patch, without its sign. -/
structure DiffLine where
  kind : LineKind
  text : String
deriving DecidableEq, Repr

/-- A file of a commit. The old path is there for a renamed or copied file; the
lines stand in the order of the patch. -/
structure FileChange where
  path : String
  oldPath : Option String
  status : ChangeStatus
  isBinary : Bool
  lines : List DiffLine
deriving DecidableEq, Repr

/-- The files of one commit. -/
structure Diff where
  files : List FileChange
deriving DecidableEq, Repr

/-- A changed line that a search found, with the lines of the patch next to it. -/
structure MatchedLine where
  path : String
  kind : LineKind
  text : String
  search : String
  before : Option String
  after : Option String
deriving DecidableEq, Repr

/-- Whether a line contains a text, whatever the case of their letters. -/
def lineContains (line text : String) : Bool :=
  Text.containsList (Text.lowerList text.toList) (Text.lowerList line.toList)

namespace FileChange

/-- The texts of the lines of one kind. -/
def linesOf (f : FileChange) (kind : LineKind) : List String :=
  (f.lines.filter (·.kind == kind)).map (·.text)

def addedLines (f : FileChange) : List String := f.linesOf .added

def deletedLines (f : FileChange) : List String := f.linesOf .deleted

/-- Counts are 32-bit integers. -/
def addedCount (f : FileChange) : Int32 := Int32.ofNat f.addedLines.length

def deletedCount (f : FileChange) : Int32 := Int32.ofNat f.deletedLines.length

def addedContains (f : FileChange) (text : String) : Bool :=
  f.addedLines.any (lineContains · text)

def deletedContains (f : FileChange) (text : String) : Bool :=
  f.deletedLines.any (lineContains · text)

def contentContains (f : FileChange) (text : String) : Bool :=
  f.addedContains text || f.deletedContains text

/-- The lines of a list that a search finds, each with its neighbours. `before` is
the line in front of the list. -/
def matchesFrom (path search : String) (wanted : LineKind → Bool) (before : Option String) :
    List DiffLine → List MatchedLine
  | [] => []
  | line :: rest =>
    let more := matchesFrom path search wanted (some line.text) rest
    if wanted line.kind && lineContains line.text search then
      ⟨path, line.kind, line.text, search, before, rest.head?.map (·.text)⟩ :: more
    else more

/-- Which kinds of lines a search reads. -/
def wanted (added deleted : Bool) : LineKind → Bool
  | .added => added
  | .deleted => deleted
  | .context => false

/-- The changed lines of the wanted kinds that contain a text. -/
def matchingLines (f : FileChange) (search : String) (added deleted : Bool) : List MatchedLine :=
  matchesFrom f.path search (wanted added deleted) none f.lines

/-- The path, with the old one in front if there is one. -/
def shownPath (f : FileChange) : String :=
  match f.oldPath with
  | some old => old ++ " → " ++ f.path
  | none => f.path

end FileChange

namespace Diff

def addedTotal (d : Diff) : Int32 := (d.files.map (·.addedCount)).foldl (· + ·) 0

def deletedTotal (d : Diff) : Int32 := (d.files.map (·.deletedCount)).foldl (· + ·) 0

def fileCount (d : Diff) : Int32 := Int32.ofNat d.files.length

def addedContains (d : Diff) (text : String) : Bool := d.files.any (·.addedContains text)

def deletedContains (d : Diff) (text : String) : Bool := d.files.any (·.deletedContains text)

def contentContains (d : Diff) (text : String) : Bool := d.files.any (·.contentContains text)

def matchingLines (d : Diff) (search : String) (added deleted : Bool) : List MatchedLine :=
  d.files.flatMap (·.matchingLines search added deleted)

end Diff

end CommitQuery
