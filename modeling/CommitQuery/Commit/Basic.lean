-- A commit: who made it, when, why, and what it changes.
import CommitQuery.Commit.Change
import CommitQuery.Time.Timestamp

namespace CommitQuery

structure Commit where
  sha : String
  message : String
  authorName : String
  authorEmail : String
  authorWhen : Timestamp
  committerName : String
  committerEmail : String
  committerWhen : Timestamp
  diff : Diff
deriving DecidableEq, Repr

namespace Commit

/-- The first line of the message, trimmed. -/
def subject (c : Commit) : String :=
  Text.trim (String.ofList ((Text.lines c.message.toList).head?.getD []))

/-- The first seven characters of the hash. -/
def shortSha (c : Commit) : String := String.ofList (c.sha.toList.take 7)

end Commit

end CommitQuery
