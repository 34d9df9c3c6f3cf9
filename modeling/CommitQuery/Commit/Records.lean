-- The records that queries reach: commits, their diffs and the files of a diff.
-- Other records can be added: `ε` is the type of their kinds, `σ` their own type.
import CommitQuery.Commit.Basic
import CommitQuery.Value.Schema

namespace CommitQuery

inductive Kind (ε : Type)
  | commit
  | diff
  | file
  | other (kind : ε)
deriving DecidableEq, Repr

inductive Record (σ : Type)
  | commit (c : Commit)
  | diff (d : Diff)
  | file (f : FileChange)
  | other (r : σ)

variable {ε σ : Type}

namespace Record

def commit? : Record σ → Option Commit
  | .commit c => some c
  | _ => none

def diff? : Record σ → Option Diff
  | .diff d => some d
  | _ => none

def file? : Record σ → Option FileChange
  | .file f => some f
  | _ => none

end Record

/-- A member of records, as far as `read` knows their kind; any other value has
Null there. -/
def recordMember {κ ρ α : Type} (read : ρ → Option α) (name : String) (type : ValueType κ)
    (part : α → Value κ ρ) : Member κ ρ where
  name := name
  type := type
  get
    | .record r _ => ((read r).map part).getD .null
    | _ => .null

/-- A method of records that tests a text, as far as `read` knows their kind. -/
def recordTest {κ ρ α : Type} (S : Schema κ ρ) (read : ρ → Option α) (name : String)
    (test : α → String → Bool) : Method κ ρ where
  name := name
  parameters := [.text]
  returns := .bool
  call receiver arguments := do
    let a ← S.recordReceiver read receiver
    let text ← S.textArgument arguments 0
    return .bool (test a text)

/-- Records beside those of a repository: their kinds, with the members and
methods of each. -/
structure Extension (ε σ : Type) where
  kindOf : σ → ε
  nameOf : ε → String
  members : ε → List (Member (Kind ε) (Record σ))
  methods : ε → List (Method (Kind ε) (Record σ))

/-- No other records. -/
def Extension.nothing : Extension Empty Empty where
  kindOf := id
  nameOf := nofun
  members := nofun
  methods := nofun

namespace Records

def commitMember (name : String) (type : ValueType (Kind ε))
    (part : Commit → Value (Kind ε) (Record σ)) : Member (Kind ε) (Record σ) :=
  recordMember Record.commit? name type part

def commitMembers : List (Member (Kind ε) (Record σ)) :=
  [commitMember "Sha" .text fun c => .text c.sha,
   commitMember "Message" .text fun c => .text c.message,
   commitMember "MessageShort" .text fun c => .text c.subject,
   commitMember "AuthorName" .text fun c => .text c.authorName,
   commitMember "AuthorEmail" .text fun c => .text c.authorEmail,
   commitMember "AuthorWhen" .timestamp fun c => .timestamp c.authorWhen,
   commitMember "CommitterName" .text fun c => .text c.committerName,
   commitMember "CommitterEmail" .text fun c => .text c.committerEmail,
   commitMember "CommitterWhen" .timestamp fun c => .timestamp c.committerWhen,
   commitMember "Diff" (.record .diff) fun c => .ofRecord (.diff c.diff)]

def diffMember (name : String) (type : ValueType (Kind ε))
    (part : Diff → Value (Kind ε) (Record σ)) : Member (Kind ε) (Record σ) :=
  recordMember Record.diff? name type part

def diffMembers : List (Member (Kind ε) (Record σ)) :=
  [diffMember "Files" (.sequence (.record .file)) fun d =>
     .ofItems (.record .file) (d.files.map fun f => .ofRecord (.file f)),
   diffMember "TotalLinesAdded" .int fun d => .int d.addedTotal,
   diffMember "TotalLinesDeleted" .int fun d => .int d.deletedTotal,
   diffMember "FilesChanged" .int fun d => .int d.fileCount]

def fileMember (name : String) (type : ValueType (Kind ε))
    (part : FileChange → Value (Kind ε) (Record σ)) : Member (Kind ε) (Record σ) :=
  recordMember Record.file? name type part

def fileMembers : List (Member (Kind ε) (Record σ)) :=
  [fileMember "Path" .text fun f => .text f.path,
   fileMember "OldPath" .text fun f => .ofText? f.oldPath,
   fileMember "Status" .text fun f => .text f.status.name,
   fileMember "LinesAdded" .int fun f => .int f.addedCount,
   fileMember "LinesDeleted" .int fun f => .int f.deletedCount,
   fileMember "IsBinary" .bool fun f => .bool f.isBinary,
   fileMember "AddedContent" (.sequence .text) fun f => .ofTexts f.addedLines,
   fileMember "DeletedContent" (.sequence .text) fun f => .ofTexts f.deletedLines]

end Records

namespace Extension

variable (x : Extension ε σ)

def kind : Record σ → Kind ε
  | .commit _ => .commit
  | .diff _ => .diff
  | .file _ => .file
  | .other r => .other (x.kindOf r)

def kindName : Kind ε → String
  | .commit => "CommitInfo"
  | .diff => "DiffData"
  | .file => "FileChange"
  | .other e => x.nameOf e

def kindMembers : Kind ε → List (Member (Kind ε) (Record σ))
  | .commit => Records.commitMembers
  | .diff => Records.diffMembers
  | .file => Records.fileMembers
  | .other e => x.members e

/-- The records by name only, for the messages of their own methods. -/
def names : Schema (Kind ε) (Record σ) where
  kindOf := x.kind
  nameOf := x.kindName
  members _ := []
  methods _ := []

def kindMethods : Kind ε → List (Method (Kind ε) (Record σ))
  | .commit => []
  | .diff =>
    [recordTest x.names Record.diff? "AddedContains" Diff.addedContains,
     recordTest x.names Record.diff? "DeletedContains" Diff.deletedContains,
     recordTest x.names Record.diff? "ContentContains" Diff.contentContains]
  | .file =>
    [recordTest x.names Record.file? "AddedContains" FileChange.addedContains,
     recordTest x.names Record.file? "DeletedContains" FileChange.deletedContains,
     recordTest x.names Record.file? "ContentContains" FileChange.contentContains]
  | .other e => x.methods e

/-- The schema of a repository with the other records. -/
def schema : Schema (Kind ε) (Record σ) where
  kindOf := x.kind
  nameOf := x.kindName
  members := x.kindMembers
  methods := x.kindMethods

end Extension

/-- A sequence of commits. -/
def Value.ofCommits (commits : List Commit) : Value (Kind ε) (Record σ) :=
  .ofItems (.record .commit) (commits.map fun c => .ofRecord (.commit c))

end CommitQuery
