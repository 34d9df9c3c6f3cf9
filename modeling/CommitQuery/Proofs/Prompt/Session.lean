-- What a session remembers, as a function of the lines that it handled: the history of
-- the queries, the last query that had a value, and the bookmarks.
import Mathlib
import CommitQuery.Prompt.Session
import CommitQuery.Proofs.Commit.Honest
import CommitQuery.Proofs.Result.Json
import CommitQuery.Proofs.Store.Bookmark
import CommitQuery.Proofs.Store.History

namespace CommitQuery.Session

variable {ε σ : Type} [DecidableEq ε] (x : Extension ε σ)

/-! ## What the lines ask for -/

/-- Whether a query has a value, which takes commits that can be loaded. -/
def answers (here : Surroundings ε σ) (query : String) : Bool :=
  match here.load with
  | .error _ => false
  | .ok root => (Plan.runText x.schema root query).isOk

/-- The entry of a query that is run. -/
def entryOf (here : Surroundings ε σ) (query : String) : HistoryEntry where
  query := query
  time := here.now
  repository := here.location
  milliseconds := Duration.wholeMilliseconds (if answers x here query then here.elapsed else 0)
  success := answers x here query

/-- The entry of a line, if the line is a query. -/
def ran? (line : Surroundings ε σ × String) : Option HistoryEntry :=
  match Command.parse line.2 with
  | .query q => some (entryOf x line.1 q)
  | _ => none

/-- The queries among some lines, as they were run. -/
def runs (lines : List (Surroundings ε σ × String)) : List HistoryEntry := lines.filterMap (ran? x)

/-- The query of a line, if the line is one and has a value. -/
def answered? (line : Surroundings ε σ × String) : Option String :=
  match Command.parse line.2 with
  | .query q => if answers x line.1 q then some q else none
  | _ => none

/-- The last query of some lines that had a value. -/
def lastAnswered (lines : List (Surroundings ε σ × String)) : Option String :=
  (lines.filterMap (answered? x)).getLast?

/-- A name that a line gave to a query. -/
structure Saving where
  name : String
  query : String
  time : Timestamp

/-- The name that a line gives, if it gives one, to the last query before it that had a value. -/
def saved? (before : List (Surroundings ε σ × String)) (line : Surroundings ε σ × String) :
    Option Saving :=
  match Command.parse line.2 with
  | .save name =>
    if name.isEmpty then none
    else (lastAnswered x before).map fun q => ⟨name, q, line.1.now⟩
  | _ => none

/-- The names that lines give to queries, given the lines before them. -/
def saves (before : List (Surroundings ε σ × String)) :
    List (Surroundings ε σ × String) → List Saving
  | [] => []
  | line :: rest => (saved? x before line).toList ++ saves (before ++ [line]) rest

/-- The bookmark of a name that was given. -/
def Saving.bookmark (s : Saving) : Bookmark := .ofUser s.name s.query s.time

theorem runs_append (lines more : List (Surroundings ε σ × String)) :
    runs x (lines ++ more) = runs x lines ++ runs x more := List.filterMap_append

theorem runs_concat (lines : List (Surroundings ε σ × String)) (line : Surroundings ε σ × String) :
    runs x (lines ++ [line]) = runs x lines ++ (ran? x line).toList := by
  rw [runs_append]
  cases h : ran? x line with
  | none => simp [runs, h]
  | some e => simp [runs, h]

theorem lastAnswered_append (lines more : List (Surroundings ε σ × String)) :
    lastAnswered x (lines ++ more) = (lastAnswered x more).or (lastAnswered x lines) := by
  unfold lastAnswered
  rw [List.filterMap_append, List.getLast?_append]

theorem lastAnswered_concat (lines : List (Surroundings ε σ × String))
    (line : Surroundings ε σ × String) :
    lastAnswered x (lines ++ [line]) = (answered? x line).or (lastAnswered x lines) := by
  rw [lastAnswered_append]
  cases h : answered? x line with
  | none => simp [lastAnswered, h]
  | some q => simp [lastAnswered, h]

theorem saves_append (before lines more : List (Surroundings ε σ × String)) :
    saves x before (lines ++ more) = saves x before lines ++ saves x (before ++ lines) more := by
  induction lines generalizing before with
  | nil => simp [saves]
  | cons first rest ih => simp [saves, ih]

theorem saves_concat (before lines : List (Surroundings ε σ × String))
    (line : Surroundings ε σ × String) :
    saves x before (lines ++ [line]) =
      saves x before lines ++ (saved? x (before ++ lines) line).toList := by
  rw [saves_append]
  simp [saves]

/-! ## One line -/

/-- Over a repository alone a query is answered in every format, since each of its values has
JSON. -/
theorem isSome_evaluate? (load : Loaded Empty Empty) (s : Session) (query : String)
    (format : Format) : (evaluate? Extension.nothing load s query format).isSome = true := by
  unfold evaluate?
  cases answer Extension.nothing load s query with
  | error text => rfl
  | ok v =>
    cases format with
    | table => rfl
    | csv => rfl
    | json =>
      obtain ⟨j, json⟩ := (finite_nothing v).hasJson
      simp [written?, json.jsonText?_eq]

/-- What a query gives is remembered, and whether it gives anything. -/
theorem runQuery_snd (here : Surroundings ε σ) (s : Session) (query : String) :
    (runQuery x here s query).2 = remember here s query (answers x here query) := by
  unfold runQuery answer answers
  cases here.load with
  | error chain => rfl
  | ok root =>
    dsimp only
    cases Plan.runText x.schema root query with
    | error e => rfl
    | ok v => rfl

/-- All that a line can do to a session: a query is remembered, a name that is saved becomes
a bookmark of the last query that had a value, and any other line changes nothing. -/
theorem handle_cases (here : Surroundings ε σ) (s : Session) (line : String) :
    (∃ q, Command.parse line = .query q ∧
        (handle x here s line).2 = remember here s q (answers x here q)) ∨
      (∃ name q, Command.parse line = .save name ∧ name.isEmpty = false ∧ s.lastQuery = some q ∧
        (handle x here s line).2 = keepBookmarks
          { s with bookmarks := Bookmark.saved s.bookmarks (.ofUser name q here.now) }) ∨
      (∀ q, Command.parse line ≠ .query q) ∧
        (∀ name, Command.parse line = .save name → name.isEmpty = true ∨ s.lastQuery = none) ∧
        (handle x here s line).2 = s := by
  unfold handle
  cases h : Command.parse line with
  | query q =>
    refine .inl ⟨q, rfl, ?_⟩
    exact runQuery_snd x here s q
  | save name =>
    by_cases empty : name.isEmpty = true
    · refine .inr (.inr ⟨by simp, ?_, ?_⟩)
      · intro other same
        cases same
        exact .inl empty
      · simp [perform, save, empty]
    · cases last : s.lastQuery with
      | none =>
        refine .inr (.inr ⟨by simp, fun _ _ => .inr rfl, ?_⟩)
        simp [perform, save, empty, last]
      | some q =>
        refine .inr (.inl ⟨name, q, rfl, by simpa using empty, rfl, ?_⟩)
        simp [perform, save, empty, last, Bookmark.saved]
  | _ => exact .inr (.inr ⟨by simp, by simp, rfl⟩)

theorem not_query {here : Surroundings ε σ} {line : String}
    (h : ∀ q, Command.parse line ≠ .query q) :
    ran? x (here, line) = none ∧ answered? x (here, line) = none := by
  unfold ran? answered?
  split
  · rename_i q same
    exact absurd same (h q)
  · exact ⟨rfl, rfl⟩

theorem history_handle (here : Surroundings ε σ) (s : Session) (line : String) :
    (handle x here s line).2.history =
      (ran? x (here, line)).toList.foldl History.add s.history := by
  rcases handle_cases x here s line with ⟨q, h, after⟩ | ⟨name, q, h, -, -, after⟩ | ⟨h, -, after⟩
  · rw [after]
    simp [ran?, h, remember, keepHistory, entryOf]
  · rw [after]
    simp [ran?, h, keepBookmarks]
  · rw [after, (not_query x h).1]
    rfl

theorem lastQuery_handle (here : Surroundings ε σ) (s : Session) (line : String) :
    (handle x here s line).2.lastQuery = (answered? x (here, line)).or s.lastQuery := by
  rcases handle_cases x here s line with ⟨q, h, after⟩ | ⟨name, q, h, -, -, after⟩ | ⟨h, -, after⟩
  · rw [after]
    by_cases ok : answers x here q = true
    · simp [answered?, h, remember, keepHistory, ok]
    · simp [answered?, h, remember, keepHistory, ok]
  · rw [after]
    simp [answered?, h, keepBookmarks]
  · rw [after, (not_query x h).2]
    rfl

theorem settings_handle (here : Surroundings ε σ) (s : Session) (line : String) :
    (handle x here s line).2.settings = s.settings := by
  rcases handle_cases x here s line with ⟨q, -, after⟩ | ⟨name, q, -, -, -, after⟩ | ⟨-, -, after⟩
  · rw [after]
    rfl
  · rw [after]
    rfl
  · rw [after]

/-! ## All lines -/

theorem after_concat (s : Session) (lines : List (Surroundings ε σ × String))
    (line : Surroundings ε σ × String) :
    after x s (lines ++ [line]) = (handle x line.1 (after x s lines) line.2).2 := by
  unfold after
  rw [List.foldl_append]
  rfl

theorem settings_after (s : Session) (lines : List (Surroundings ε σ × String)) :
    (after x s lines).settings = s.settings := by
  induction lines using List.reverseRecOn with
  | nil => rfl
  | append_singleton lines line ih => rw [after_concat, settings_handle, ih]

theorem history_after (s : Session) (lines : List (Surroundings ε σ × String)) :
    (after x s lines).history = (runs x lines).foldl History.add s.history := by
  induction lines using List.reverseRecOn with
  | nil => rfl
  | append_singleton lines line ih =>
    rw [after_concat, history_handle, ih, runs_concat, List.foldl_append]

theorem lastQuery_after (s : Session) (lines : List (Surroundings ε σ × String)) :
    (after x s lines).lastQuery = (lastAnswered x lines).or s.lastQuery := by
  induction lines using List.reverseRecOn with
  | nil => rfl
  | append_singleton lines line ih =>
    rw [after_concat, lastQuery_handle, ih, lastAnswered_concat, Option.or_assoc]

theorem bookmarks_after {s : Session} (nothing : s.lastQuery = none)
    (lines : List (Surroundings ε σ × String)) :
    (after x s lines).bookmarks =
      ((saves x [] lines).map Saving.bookmark).foldl Bookmark.saved s.bookmarks := by
  induction lines using List.reverseRecOn with
  | nil => rfl
  | append_singleton lines line ih =>
    have last := lastQuery_after x s lines
    rw [nothing, Option.or_none] at last
    rw [after_concat, saves_concat, List.map_append, List.foldl_append, ← ih, List.nil_append]
    rcases handle_cases x line.1 (after x s lines) line.2 with
      ⟨q, h, after⟩ | ⟨name, q, h, some_name, answered, after⟩ | ⟨h, none, after⟩
    · rw [after]
      simp [saved?, h, remember, keepHistory]
    · rw [last] at answered
      rw [after]
      simp [saved?, h, some_name, answered, keepBookmarks, Saving.bookmark]
    · have nothing_saved : saved? x lines line = Option.none := by
        unfold saved?
        split
        · rename_i name same
          rcases none name same with empty | unanswered
          · rw [if_pos empty]
          · rw [last] at unanswered
            rw [unanswered, Option.map_none, ite_self]
        · rfl
      rw [after, nothing_saved]
      rfl

theorem isBuiltin_of_mem_map {savings : List Saving} :
    ∀ b ∈ savings.map Saving.bookmark, b.isBuiltin = false := by
  intro b hb
  obtain ⟨saving, -, rfl⟩ := List.mem_map.mp hb
  rfl

/-- What a name stands for after some lines, as the last of them that gave it tells. -/
theorem find?_bookmarks_after (settings : Settings) (lines : List (Surroundings ε σ × String))
    (name : String) :
    ((after x (fresh settings) lines).bookmarks.find? fun b =>
        b.isBuiltin = false ∧ b.name.toLower = name.toLower).map (fun b => (b.name, b.query)) =
      ((saves x [] lines).filter fun saving => saving.name.toLower = name.toLower).getLast?.map
        fun saving => (saving.name, saving.query) := by
  have start : (fresh settings).bookmarks = [] := rfl
  rw [bookmarks_after x rfl, start, ← funext fun b : Bookmark => Bookmark.isUsers_eq b name,
    Bookmark.find?_foldl_saved isBuiltin_of_mem_map, List.filter_map, List.getLast?_map,
    Option.map_map]
  rfl

/-! ## The law -/

/-- After any lines a new session has this memory. Its history is that of the queries that
were run, without those that repeat the query right before them, the newest ones up to the
limit; its last query is the last one that had a value. A bookmark stands under each name that
a line gave, in whatever case of ASCII letters, and holds the name as the last such line wrote
it and the query that was the last one to have a value at that moment. A line that is neither a
query nor a save with a name and something to save changes nothing. -/
theorem a_session_remembers_what_its_lines_did (settings : Settings)
    (lines : List (Surroundings ε σ × String)) :
    let s := after x (fresh settings) lines
    s.history.entries = History.newest (max settings.historySize.toNat 1)
        (History.withoutRepeats none (runs x lines)) ∧
      s.lastQuery = lastAnswered x lines ∧
      (∀ name : String,
        (s.bookmarks.find? fun b => b.isBuiltin = false ∧ b.name.toLower = name.toLower).map
            (fun b => (b.name, b.query)) =
          ((saves x [] lines).filter fun saving =>
            saving.name.toLower = name.toLower).getLast?.map
              fun saving => (saving.name, saving.query)) ∧
      (s.bookmarks.Pairwise fun a b => a.name.toLower ≠ b.name.toLower) ∧
      (∀ b ∈ s.bookmarks, b.isBuiltin = false) ∧
      ∀ here line, (∃ q, Command.parse line = .query q) ∨
        (∃ name, Command.parse line = .save name ∧ name.isEmpty = false ∧
          s.lastQuery.isSome = true) ∨
        (handle x here s line).2 = s := by
  intro s
  have bookmarks : s.bookmarks = ((saves x [] lines).map Saving.bookmark).foldl Bookmark.saved [] :=
    bookmarks_after x rfl lines
  have own : ∀ b ∈ s.bookmarks, b.isBuiltin = false := by
    rw [bookmarks]
    exact Bookmark.forall_mem_foldl_saved isBuiltin_of_mem_map
  refine ⟨?_, ?_, find?_bookmarks_after x settings lines, ?_, own, ?_⟩
  · rw [history_after]
    exact History.entries_foldl_add settings.historySize (runs x lines)
  · rw [lastQuery_after]
    exact Option.or_none
  · have distinct : Bookmark.Distinct s.bookmarks := bookmarks ▸ Bookmark.distinct_foldl_saved _
    exact distinct.imp_of_mem fun ha hb apart => apart (own _ ha) (own _ hb)
  · intro here line
    rcases handle_cases x here s line with ⟨q, h, -⟩ | ⟨name, q, h, named, last, -⟩ | ⟨-, -, same⟩
    · exact .inl ⟨q, h⟩
    · exact .inr (.inl ⟨name, h, named, by rw [last]; rfl⟩)
    · exact .inr (.inr same)

/-- Two queries, each saved under one name, the second time in small letters; at the end one
that finds no commits. -/
theorem a_name_in_small_letters_is_the_same_name :
    let x := Extension.nothing
    let on (load : Loaded Empty Empty) (day : Nat) : Surroundings Empty Empty :=
      ⟨"/work", load, ⟨⟨2025, 1, day⟩, 3, 4, 59, 0, 0⟩, 1500000⟩
    let commits : Loaded Empty Empty := .ok (Root.ofCommits [.blank])
    let lines := [(on commits 1, "Commits"), (on commits 2, "save Mine"),
      (on commits 3, "Commits.Count()"), (on commits 4, "save mine"),
      (on (.error ["no repository"]) 5, "Commits.First()")]
    let s := after x (fresh .standard) lines
    s.history.entries.map (fun e => (e.query, e.success)) =
        [("Commits", true), ("Commits.Count()", true), ("Commits.First()", false)] ∧
      s.lastQuery = some "Commits.Count()" ∧
      (s.bookmarks.find? fun b => b.isBuiltin = false ∧ b.name.toLower = "MINE".toLower).map
          (fun b => (b.name, b.query)) = some ("mine", "Commits.Count()") := by
  intro x on commits lines s
  obtain ⟨history, last, names, -⟩ := a_session_remembers_what_its_lines_did x .standard lines
  have listed : answers x (on commits 1) "Commits" = true := by cbv
  have counted : answers x (on commits 3) "Commits.Count()" = true := by cbv
  have parsed : lines.map (fun line => Command.parse line.2) = [.query "Commits", .save "Mine",
      .query "Commits.Count()", .save "mine", .query "Commits.First()"] := by decide
  simp only [lines, List.map_cons, List.map_nil, List.cons.injEq, and_true] at parsed
  obtain ⟨first, second, third, fourth, fifth⟩ := parsed
  have failed : answers x (on (.error ["no repository"]) 5) "Commits.First()" = false := rfl
  have ran : runs x lines = [entryOf x (on commits 1) "Commits",
      entryOf x (on commits 3) "Commits.Count()",
      entryOf x (on (.error ["no repository"]) 5) "Commits.First()"] := by
    simp [runs, lines, ran?, first, second, third, fourth, fifth]
  have saved : saves x [] lines = [⟨"Mine", "Commits", (on commits 2).now⟩,
      ⟨"mine", "Commits.Count()", (on commits 4).now⟩] := by
    simp [saves, lines, saved?, lastAnswered, answered?, first, second, third, fourth, fifth,
      listed, counted]
  refine ⟨?_, ?_, ?_⟩
  · have trims : (["Commits", "Commits.Count()", "Commits.First()"].map Text.trim) =
        ["Commits", "Commits.Count()", "Commits.First()"] := by decide
    simp only [List.map_cons, List.map_nil, List.cons.injEq, and_true] at trims
    rw [history, ran, History.newest_of_length_le]
    · simp [History.withoutRepeats, History.key, entryOf, listed, counted, failed, trims]
    · simp [History.withoutRepeats, History.key, entryOf, trims, Settings.standard]
  · rw [last]
    simp [lines, lastAnswered, answered?, first, second, third, fourth, fifth, listed, counted,
      failed]
  · rw [names, saved]
    simp only [← Text.equalsIgnoringAsciiCase_iff]
    decide

end CommitQuery.Session
