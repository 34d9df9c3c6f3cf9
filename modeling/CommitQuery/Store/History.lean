-- The history of queries: the newest ones up to a limit, oldest first. A query
-- that repeats the last one is not kept again.
import CommitQuery.Json.Fields
import CommitQuery.Json.Reader
import CommitQuery.Json.Writer
import CommitQuery.Text.Case
import CommitQuery.Text.Pieces

namespace CommitQuery

/-- A query that was run: when, where, for how many milliseconds, and whether it
succeeded. The time is one of UTC. -/
structure HistoryEntry where
  query : String
  time : Timestamp
  repository : String
  milliseconds : UInt64
  success : Bool
deriving DecidableEq, Repr

structure History where
  entries : List HistoryEntry
  limit : UInt64
deriving DecidableEq, Repr

namespace History

/-- The limit of a new history. -/
def defaultLimit : UInt64 := 1000

def empty : History := ⟨[], defaultLimit⟩

/-- The last `count` items of a list. -/
def newest {α : Type} (count : Nat) (l : List α) : List α := l.drop (l.length - count)

/-- The history without its oldest entries over the limit. -/
def shorten (h : History) : History := { h with entries := newest h.limit.toNat h.entries }

/-- The history with another limit, at least 1. -/
def withLimit (h : History) (limit : UInt64) : History :=
  shorten { h with limit := if limit = 0 then 1 else limit }

/-- Whether two entries have the same query, blanks at the ends aside. -/
def sameQuery (a b : HistoryEntry) : Bool := Text.trim a.query == Text.trim b.query

/-- The history with one more entry, unless it repeats the last query. -/
def add (h : History) (entry : HistoryEntry) : History :=
  match h.entries.getLast? with
  | some last =>
    if sameQuery last entry then h else shorten { h with entries := h.entries ++ [entry] }
  | none => shorten { h with entries := h.entries ++ [entry] }

def lastQuery? (h : History) : Option String := h.entries.getLast?.map (·.query)

/-- The `count` newest entries, oldest first. -/
def recent (h : History) (count : Nat) : List HistoryEntry := newest count h.entries

/-- The entries whose query contains a text, whatever the case. -/
def search (h : History) (text : String) : List HistoryEntry :=
  h.entries.filter fun e =>
    Text.containsList (Text.lowerList text.toList) (Text.lowerList e.query.toList)

/-! ## On the screen -/

/-- The line of an entry. -/
def entryLine (e : HistoryEntry) : String :=
  "  " ++ e.time.shown ++ "  " ++ (if e.success then "ok " else "err") ++ "  " ++
    Text.fillStart 6 (toString e.milliseconds.toNat) ++ "ms  " ++ e.query ++ "\n"

/-- Entries as text; `filtered` tells whether they are the result of a search. -/
def listing (entries : List HistoryEntry) (filtered : Bool) : String :=
  match entries with
  | [] => if filtered then "No matching queries.\n" else "No history yet.\n"
  | entries => String.join (entries.map entryLine)

/-! ## In a file -/

def entryJson (e : HistoryEntry) : Json :=
  .object [("query", .text e.query), ("timestamp", .text e.time.toUtcText),
    ("repository", .text e.repository), ("execution_time_ms", .ofNat e.milliseconds.toNat),
    ("success", .bool e.success)]

def toJson (h : History) : Json :=
  .object [("entries", .array (h.entries.map entryJson)), ("max_entries", .ofNat h.limit.toNat)]

/-- The file that holds a history. -/
def save (h : History) : String := h.toJson.toText

def entryNames : List String := ["query", "timestamp", "repository", "execution_time_ms", "success"]

def readEntry (j : Json) : Option HistoryEntry := do
  match ← Json.slots? entryNames j with
  | [query, time, repository, milliseconds, success] =>
    return {
      query := ← query.required Json.readText
      time := ← time.required Json.readTime
      repository := ← repository.required Json.readText
      milliseconds := ← milliseconds.required Json.readWord
      success := ← success.required Json.readBool }
  | _ => none

def ofJson? (j : Json) : Option History := do
  match ← Json.slots? ["entries", "max_entries"] j with
  | [entries, limit] =>
    return {
      entries := ← entries.required (Json.readList readEntry)
      limit := ← limit.withDefault defaultLimit Json.readWord }
  | _ => none

/-- The history of a file, as the file has it. -/
def load? (file : String) : Option History := (Json.parse file).bind ofJson?

end History

end CommitQuery
