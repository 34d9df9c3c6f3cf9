-- A session at the prompt: it runs queries over the commits as they are at that
-- moment, and remembers the queries, the bookmarks and the last query that
-- succeeded. A session may keep its history and its bookmarks in files.
import CommitQuery.Plan.Evaluate
import CommitQuery.Plan.Explain
import CommitQuery.Prompt.Help
import CommitQuery.Result.Csv
import CommitQuery.Result.Structured
import CommitQuery.Screen.Render
import CommitQuery.Store.History
import CommitQuery.Time.Duration

namespace CommitQuery

open Query

/-- The two files of a session, as far as they exist. -/
structure SessionFiles where
  history : Option String
  bookmarks : Option String
deriving DecidableEq, Repr

/-- What a session remembers, and its files if it keeps any. -/
structure Session where
  settings : Settings
  history : History
  bookmarks : List Bookmark
  lastQuery : Option String
  files : Option SessionFiles
deriving DecidableEq, Repr

/-- What loading the commits gives: the root collection, or the messages of what
went wrong, from the outermost to the cause. -/
abbrev Loaded (ε σ : Type) := Except (List String) (Root (Kind ε) (Record σ))

/-- What a line finds outside the session: the place of the commits, what loading
them gives, the time, and how many nanoseconds a query takes. -/
structure Surroundings (ε σ : Type) where
  location : String
  load : Loaded ε σ
  now : Timestamp
  elapsed : Nat

/-- How a result is written. -/
inductive Format
  | table
  | json
  | csv
deriving DecidableEq, Repr

/-- The text of a result or of an error. -/
structure Evaluation where
  output : String
  success : Bool
deriving DecidableEq, Repr

/-- What the terminal does after a line. -/
inductive Reply
  | output (text : String)
  | clear
  | exit
deriving DecidableEq, Repr

namespace Session

/-! ## Start -/

/-- A session without files. -/
def fresh (settings : Settings) : Session :=
  ⟨settings, History.empty.withLimit settings.historySize, [], none, none⟩

/-- The history of a file; a new one if there is no file or it cannot be read. -/
def readHistory (file : Option String) : History := (file.bind History.load?).getD History.empty

/-- The bookmarks of a file; none if there is no file or it cannot be read. -/
def readBookmarks (file : Option String) : List Bookmark := (file.bind Bookmark.load?).getD []

/-- A session with files. -/
def restored (settings : Settings) (files : SessionFiles) : Session :=
  ⟨settings, (readHistory files.history).withLimit settings.historySize,
    readBookmarks files.bookmarks, none, some files⟩

variable {ε σ : Type} [DecidableEq ε] (x : Extension ε σ)

/-! ## Results -/

/-- How a session shows results. -/
def options (s : Session) : Screen.Options :=
  ⟨s.settings.color, s.settings.authorWidth.toNat, s.settings.messageWidth.toNat, none⟩

/-- What the text of a query searches lines for. -/
def searchOf (query : String) : Option ContentSearch :=
  (Expr.parse query).toOption.bind ContentSearch.find?

/-- The text for commits that could not be loaded. -/
def loadError (chain : List String) : String := "Error: " ++ Text.joinWith ": " chain ++ "\n"

/-- The value of a query, or the text that tells why there is none. -/
def answer (load : Loaded ε σ) (s : Session) (query : String) :
    Except String (Value (Kind ε) (Record σ)) :=
  match load with
  | .error chain => .error (loadError chain)
  | .ok root =>
    (Plan.runText x.schema root query).mapError fun e => Screen.renderError s.options e query

/-- The table of the result of a query. -/
def tableText (s : Session) (query : String) (v : Value (Kind ε) (Record σ)) : String :=
  Screen.render x { s.options with search := searchOf query } v

/-- The result of a query in a format, unless it is to be JSON and has none. -/
def written? (s : Session) (query : String) (v : Value (Kind ε) (Record σ)) :
    Format → Option String
  | .table => some (tableText x s query v)
  | .json => (x.schema.jsonText? v).map (· ++ "\n")
  | .csv => some (Csv.ofValue x.schema v)

/-- Runs a query once, if its result can be written. -/
def evaluate? (load : Loaded ε σ) (s : Session) (query : String) (format : Format) :
    Option Evaluation :=
  match answer x load s query with
  | .ok v => (written? x s query v format).map (⟨·, true⟩)
  | .error text => some ⟨text, false⟩

/-! ## Lines -/

/-- The session with its history written to its file. -/
def keepHistory (s : Session) : Session :=
  { s with files := s.files.map fun f => { f with history := some s.history.save } }

/-- The session with its bookmarks written to their file. -/
def keepBookmarks (s : Session) : Session :=
  { s with files := s.files.map fun f => { f with bookmarks := some (Bookmark.save s.bookmarks) } }

/-- What a session remembers of a query that it ran. A query that failed took no time. -/
def remember (here : Surroundings ε σ) (s : Session) (query : String) (success : Bool) : Session :=
  let elapsed := if success then here.elapsed else 0
  let entry : HistoryEntry :=
    ⟨query, here.now, here.location, Duration.wholeMilliseconds elapsed, success⟩
  keepHistory { s with
    history := s.history.add entry
    lastQuery := if success then some query else s.lastQuery }

/-- Runs a query and shows how long it took. -/
def runQuery (here : Surroundings ε σ) (s : Session) (query : String) : String × Session :=
  match answer x here.load s query with
  | .ok v =>
    (tableText x s query v ++ "Executed in " ++ Duration.ofNanoseconds here.elapsed ++ "\n",
      remember here s query true)
  | .error text => (text, remember here s query false)

/-- The plan of a query, which is not run. -/
def explain (load : Loaded ε σ) (s : Session) (query : String) : String :=
  if query.isEmpty then "Usage: explain <query>\n"
  else match load with
    | .error chain => loadError chain
    | .ok root =>
      match Plan.compileText x.schema root query with
      | .ok plan => (plan.explain x.schema).render
      | .error e => Screen.renderError s.options e query

/-- How many queries are listed unless a number is given. -/
def listedQueries : Nat := 20

/-- The number that a text writes in ASCII digits, perhaps after a plus, if it has 64 bits. -/
def count? (text : String) : Option Nat :=
  let digits := match text.toList with
    | '+' :: rest => rest
    | s => s
  if !digits.isEmpty && digits.all Text.isAsciiDigit && Text.digitsValue digits < UInt64.size then
    some (Text.digitsValue digits)
  else none

/-- The newest queries, or those that contain a text. -/
def listHistory (s : Session) (argument : Option String) : String :=
  match argument with
  | none => History.listing (s.history.recent listedQueries) false
  | some text =>
    match count? text with
    | some count => History.listing (s.history.recent count) false
    | none => History.listing (s.history.search text) true

/-- Bookmarks the last query that succeeded. -/
def save (here : Surroundings ε σ) (s : Session) (name : String) : String × Session :=
  if name.isEmpty then ("Usage: save <name>\n", s)
  else match s.lastQuery with
    | none => ("Nothing to save yet. Run a query first.\n", s)
    | some query =>
      let (bookmarks, replaced) := Bookmark.upsert (.ofUser name query here.now) s.bookmarks
      let verb := if replaced then "Updated" else "Saved"
      (verb ++ " bookmark '" ++ name ++ "': " ++ query ++ "\n",
        keepBookmarks { s with bookmarks := bookmarks })

/-- Carries out a command. -/
def perform (here : Surroundings ε σ) (s : Session) : Command → Reply × Session
  | .empty => (.output "", s)
  | .help => (.output (Help.text s.settings.rootName), s)
  | .examples =>
    (.output (Help.examples (Bookmark.samples here.now) s.bookmarks s.settings.rootName), s)
  | .history argument => (.output (listHistory s argument), s)
  | .explain query => (.output (explain x here.load s query), s)
  | .save name =>
    let (text, s) := save here s name
    (.output text, s)
  | .clear => (.clear, s)
  | .exit => (.exit, s)
  | .query query =>
    let (text, s) := runQuery x here s query
    (.output text, s)

/-- Handles one line. -/
def handle (here : Surroundings ε σ) (s : Session) (line : String) : Reply × Session :=
  perform x here s (Command.parse line)

/-- The session after some lines, each with its surroundings. -/
def after (s : Session) (lines : List (Surroundings ε σ × String)) : Session :=
  lines.foldl (fun s (here, line) => (handle x here s line).2) s

end Session

end CommitQuery
