-- Reading a commit log. Each commit is one record after a record separator; it
-- has eight fields, each ended by a field separator, and then its patch. A record
-- that cannot be read fails the whole log.
import CommitQuery.Commit.Basic
import CommitQuery.Commit.Patch
import CommitQuery.Text.Quoted
import CommitQuery.Time.Reader

namespace CommitQuery.Log

open CommitQuery.Text

def recordSeparator : Char := '\x1e'

def fieldSeparator : Char := '\x1f'

/-- The fields in front of the patch: hash, author's name, email and time,
committer's name, email and time, message. -/
def headerFields : Nat := 8

/-- Why a log cannot be read. -/
inductive BadLog
  | malformedRecord (fields : Nat) (record : String)
  | invalidDate (date sha : String) (cause : Timestamp.BadTime)
deriving DecidableEq, Repr

/-- How many characters of a malformed record its error shows. -/
def shownLength : Nat := 80

def BadLog.message : BadLog → String
  | .malformedRecord fields record =>
    "Malformed git log record (" ++ toString fields ++ " fields): " ++
      quoted (String.ofList (record.toList.take shownLength))
  | .invalidDate date sha _ => "Invalid date " ++ quoted date ++ " in commit " ++ sha

/-- The messages of an error from the outermost to its cause. -/
def BadLog.chain : BadLog → List String
  | .malformedRecord fields record => [BadLog.message (.malformedRecord fields record)]
  | .invalidDate date sha cause => [BadLog.message (.invalidDate date sha cause), cause.message]

/-- A time of the commit with the given hash. -/
def readTime (sha : String) (field : List Char) : Except BadLog Timestamp :=
  match Timestamp.read (String.ofList (trimEnd (trimStart field))) with
  | .ok t => .ok t
  | .error cause => .error (.invalidDate (String.ofList field) sha cause)

/-- The commit of one record. -/
def readRecord (record : List Char) : Except BadLog Commit :=
  match piecesUpTo fieldSeparator (headerFields + 1) record with
  | sha :: authorName :: authorEmail :: authorWhen :: committerName :: committerEmail ::
      committerWhen :: message :: patch => do
    let sha := String.ofList (trimEnd (trimStart sha))
    let authorWhen ← readTime sha authorWhen
    let committerWhen ← readTime sha committerWhen
    return {
      sha := sha
      message := String.ofList (trimEnd message)
      authorName := String.ofList authorName
      authorEmail := String.ofList authorEmail
      authorWhen := authorWhen
      committerName := String.ofList committerName
      committerEmail := String.ofList committerEmail
      committerWhen := committerWhen
      diff := ⟨Patch.readFiles (patch.head?.getD [])⟩ }
  | fields => .error (.malformedRecord fields.length (String.ofList record))

/-- The commits of a log; blank records do not count. -/
def read (log : String) : Except BadLog (List Commit) :=
  ((pieces recordSeparator log.toList).filter fun r => !(trimStart r).isEmpty).mapM readRecord

end CommitQuery.Log
