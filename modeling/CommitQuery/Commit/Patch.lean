-- Reading the patch of a commit. A line that starts with `diff --git ` opens a
-- file; the lines up to the next one belong to it. Before its first hunk a file
-- has header lines, after it every line is read by its sign alone, so that no
-- line of a hunk is taken for a header.
import CommitQuery.Commit.Change

namespace CommitQuery.Patch

open CommitQuery.Text

/-! ## Paths -/

/-- A path without the quotes around it. -/
def unquote (path : List Char) : List Char :=
  let path := trimEnd (trimStart path)
  match path with
  | '"' :: rest => (beforeEnd? ['"'] rest).getD path
  | _ => path

/-- The path that the line of the new side names; the null device is no path. -/
def newSidePath? (text : List Char) : Option (List Char) :=
  let path := unquote text
  if path = "/dev/null".toList then none else some ((afterStart? "b/".toList path).getD path)

/-- The new path of the line that opens a file: what follows its last `b/`. Later
header lines name the path more surely. -/
def openingPath (text : List Char) : List Char :=
  let text := trimEnd (trimStart text)
  match splitLast " b/".toList text with
  | some (_, path) => unquote path
  | none =>
    match splitLast " \"b/".toList text with
    | some (_, path) => unquote ('"' :: path)
    | none => unquote text

/-! ## One file -/

/-- The kind of object that a file mode names: its first three digits. -/
def objectKind (mode : List Char) : List Char :=
  match splitBytes? 3 mode with
  | some (kind, _) => kind
  | none => mode

/-- A file while its header lines are read. -/
structure FileReader where
  file : FileChange
  oldMode : Option (List Char)

/-- A file that was just opened. -/
def FileReader.ofOpening (text : List Char) : FileReader :=
  ⟨⟨String.ofList (openingPath text), none, .modified, false, []⟩, none⟩

/-- Whether a line starts a hunk. -/
def startsHunk (line : List Char) : Bool := "@@".toList.isPrefixOf line

/-- A line of a hunk; a line without a sign is no line of the file. -/
def hunkLine? : List Char → Option DiffLine
  | '+' :: text => some ⟨.added, String.ofList text⟩
  | '-' :: text => some ⟨.deleted, String.ofList text⟩
  | ' ' :: text => some ⟨.context, String.ofList text⟩
  | _ => none

/-- What a header line says. -/
inductive Header
  | newFile
  | deletedFile
  | renameFrom (path : List Char)
  | renameTo (path : List Char)
  | copyFrom (path : List Char)
  | copyTo (path : List Char)
  | oldMode (mode : List Char)
  | newMode (mode : List Char)
  | binary
  | newSide (path : List Char)

/-- The kinds of header lines by how they start, in the order they are tried. -/
def headers : List (String × (List Char → Header)) :=
  [("new file mode", fun _ => .newFile),
   ("deleted file mode", fun _ => .deletedFile),
   ("rename from ", .renameFrom),
   ("rename to ", .renameTo),
   ("copy from ", .copyFrom),
   ("copy to ", .copyTo),
   ("old mode ", .oldMode),
   ("new mode ", .newMode),
   ("Binary files ", fun _ => .binary),
   ("GIT binary patch", fun _ => .binary),
   ("+++ ", .newSide)]

/-- The header that a line is, if it is one. -/
def header? (line : List Char) : Option Header :=
  headers.findSome? fun (start, header) => (afterStart? start.toList line).map header

/-- A file after one of its header lines. -/
def FileReader.header (r : FileReader) : Header → FileReader
  | .newFile => { r with file := { r.file with status := .added } }
  | .deletedFile => { r with file := { r.file with status := .deleted } }
  | .renameFrom path =>
    { r with file := { r.file with oldPath := some (String.ofList (unquote path)),
                                   status := .renamed } }
  | .renameTo path => { r with file := { r.file with path := String.ofList (unquote path) } }
  | .copyFrom path =>
    { r with file := { r.file with oldPath := some (String.ofList (unquote path)),
                                   status := .copied } }
  | .copyTo path => { r with file := { r.file with path := String.ofList (unquote path) } }
  | .oldMode mode => { r with oldMode := some (trimEnd (trimStart mode)) }
  | .newMode mode =>
    match r.oldMode with
    | some old =>
      if objectKind old = objectKind (trimEnd (trimStart mode)) then r
      else { r with file := { r.file with status := .typeChanged } }
    | none => r
  | .binary => { r with file := { r.file with isBinary := true } }
  | .newSide path =>
    match newSidePath? path with
    | some path => { r with file := { r.file with path := String.ofList path } }
    | none => r

/-- A file after one of the lines before its first hunk. -/
def FileReader.line (r : FileReader) (line : List Char) : FileReader :=
  match header? line with
  | some header => r.header header
  | none => r

/-! ## All files -/

/-- How a line starts that opens a file. -/
def opening : List Char := "diff --git ".toList

/-- The files of a list of lines, each as the text of its opening line and the
lines that belong to it; and the lines before the first file. -/
def sections : List (List Char) → List (List Char) × List (List Char × List (List Char))
  | [] => ([], [])
  | line :: rest =>
    let (before, files) := sections rest
    match afterStart? opening line with
    | some text => ([], (text, before) :: files)
    | none => (line :: before, files)

/-- The file of one section. -/
def readFile (text : List Char) (lines : List (List Char)) : FileChange :=
  let headers := lines.takeWhile fun line => !startsHunk line
  let hunks := lines.dropWhile fun line => !startsHunk line
  { (headers.foldl FileReader.line (FileReader.ofOpening text)).file with
    lines := hunks.filterMap hunkLine? }

/-- The files of a patch. Lines before the first file count for nothing. -/
def readFiles (patch : List Char) : List FileChange :=
  (sections (lines patch)).2.map fun (text, lines) => readFile text lines

def read (patch : String) : List FileChange := readFiles patch.toList

end CommitQuery.Patch
