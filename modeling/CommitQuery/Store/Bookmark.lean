-- Saved queries: those of the user, kept in a file, and the examples that come
-- with the program.
import CommitQuery.Json.Fields
import CommitQuery.Json.Reader
import CommitQuery.Json.Writer
import CommitQuery.Text.Class

namespace CommitQuery

/-- A query with a name. Times are those of UTC. -/
structure Bookmark where
  name : String
  query : String
  description : Option String
  tags : List String
  createdAt : Timestamp
  lastUsed : Option Timestamp
  isBuiltin : Bool
deriving DecidableEq, Repr

namespace Bookmark

/-- A bookmark that the user just made. -/
def ofUser (name query : String) (now : Timestamp) : Bookmark :=
  ⟨name, query, none, [], now, none, false⟩

def hasTag (b : Bookmark) (tag : String) : Bool :=
  b.tags.any (Text.equalsIgnoringAsciiCase · tag)

/-- Whether a bookmark is the user's own of a name, in any case of ASCII letters. -/
def isUsers (b : Bookmark) (name : String) : Bool :=
  !b.isBuiltin && Text.equalsIgnoringAsciiCase b.name name

/-- A list with a bookmark in place of the user's first one of its name, or at the
end; and whether one was replaced. -/
def upsert (bookmark : Bookmark) : List Bookmark → List Bookmark × Bool
  | [] => ([bookmark], false)
  | b :: rest =>
    if b.isUsers bookmark.name then (bookmark :: rest, true)
    else
      let (more, replaced) := upsert bookmark rest
      (b :: more, replaced)

/-! ## In a file -/

def toJson (b : Bookmark) : Json :=
  .object [("name", .text b.name), ("query", .text b.query),
    ("description", .ofText? b.description), ("tags", .array (b.tags.map .text)),
    ("created_at", .text b.createdAt.toUtcText),
    ("last_used", .ofText? (b.lastUsed.map (·.toUtcText))), ("is_builtin", .bool b.isBuiltin)]

/-- The file that holds the user's own bookmarks of a list. -/
def save (bookmarks : List Bookmark) : String :=
  Json.toText (.array ((bookmarks.filter (!·.isBuiltin)).map toJson))

def names : List String :=
  ["name", "query", "description", "tags", "created_at", "last_used", "is_builtin"]

def ofJson? (j : Json) : Option Bookmark := do
  match ← Json.slots? names j with
  | [name, query, description, tags, createdAt, lastUsed, isBuiltin] =>
    return {
      name := ← name.required Json.readText
      query := ← query.required Json.readText
      description := ← description.optional Json.readText
      tags := ← tags.required (Json.readList Json.readText)
      createdAt := ← createdAt.required Json.readTime
      lastUsed := ← lastUsed.optional Json.readTime
      isBuiltin := ← isBuiltin.withDefault false Json.readBool }
  | _ => none

/-- The bookmarks of a file. -/
def load? (file : String) : Option (List Bookmark) :=
  (Json.parse file).bind (Json.readList ofJson?)

end Bookmark

end CommitQuery
