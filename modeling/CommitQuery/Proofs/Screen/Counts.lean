-- How many items of a sequence each form of output shows. CSV and JSON show them all, and so
-- do tables, but for those of commits and of files, which leave out the items that are Null.
import CommitQuery.Proofs.Commit.Solid
import CommitQuery.Proofs.Plan.Typing
import CommitQuery.Proofs.Result.Cells
import CommitQuery.Proofs.Result.Csv
import CommitQuery.Screen.Render

namespace CommitQuery

open Schema

variable {ε σ : Type}

/-! ## What a query over commits gives -/

theorem fits_of_runText {name : String} {commits : List Commit} {query : String}
    {v : Value (Kind Empty) (Record Empty)}
    (run : Plan.runText Extension.nothing.schema { Root.ofCommits commits with name := name }
      query = .ok v) :
    ∃ type, Extension.nothing.schema.Fits type v := by
  obtain ⟨p, compiled, executed⟩ := bind_eq_ok.mp run
  unfold Plan.compileText at compiled
  split at compiled
  · obtain ⟨wf, -⟩ := Plan.wellFormed_compile compiled
    rw [wf.execute_eq] at executed
    cases hv : Plan.meaning Extension.nothing.schema [] p with
    | error r => rw [hv] at executed; cases executed
    | ok w =>
      rw [hv] at executed
      cases executed
      exact ⟨_, wf.fits_meaning honest_schema_nothing (fits_ofCommits commits) .nil hv⟩
  · cases compiled

namespace Screen

/-! ## The items of a table -/

theorem length_commitsOf (x : Extension ε σ) {items : List (Value (Kind ε) (Record σ))}
    (h : ∀ v ∈ items, x.schema.Admits (.record .commit) v) :
    (commitsOf items).length = items.countP (!·.isNull) := by
  rw [commitsOf, List.length_filterMap_eq_countP]
  refine List.countP_congr fun v hv => ?_
  rcases h v hv with rfl | type
  · rfl
  · obtain ⟨r, origin, rfl, kind⟩ := exists_record type
    obtain ⟨c, rfl⟩ := kind_eq_commit kind
    rfl

theorem length_filesOf (x : Extension ε σ) {items : List (Value (Kind ε) (Record σ))}
    (h : ∀ v ∈ items, x.schema.Admits (.record .file) v) :
    (filesOf items).length = items.countP (!·.isNull) := by
  rw [filesOf, List.length_filterMap_eq_countP]
  refine List.countP_congr fun v hv => ?_
  rcases h v hv with rfl | type
  · rfl
  · obtain ⟨r, origin, rfl, kind⟩ := exists_record type
    obtain ⟨f, rfl⟩ := kind_eq_file kind
    rfl

/-- What a row of a table of such items is called. -/
def noun : ValueType (Kind ε) → String
  | .record .commit => "commit"
  | .record .file => "file"
  | _ => "row"

/-- How many items of a sequence have a row in its table. -/
def shownCount (element : ValueType (Kind ε)) (items : List (Value (Kind ε) (Record σ))) : Nat :=
  match element with
  | .record .commit | .record .file => items.countP (!·.isNull)
  | _ => items.length

/-- What stands below a table of commits: the panel of matches, if there is a search. -/
def belowCommits (o : Options) (list : List Commit) : List Char :=
  match o.search with
  | some search => matchPanel o list search
  | none => []

/-- What stands below the table of a sequence. -/
def below (o : Options) (element : ValueType (Kind ε)) (items : List (Value (Kind ε) (Record σ))) :
    List Char :=
  match element with
  | .record .commit => belowCommits o (commitsOf items)
  | _ => []

/-- The text of a footer: a number and what there is as often. -/
def counted (count : Nat) (noun : String) : List Char :=
  ("(" ++ toString count ++ " " ++ noun ++ (if count = 1 then "" else "s") ++ ")").toList

theorem footer_eq (o : Options) (count : Nat) (noun : String) :
    footer o count noun = o.paint muted (counted count noun) ++ ['\n'] := rfl

/-- A table with a number of rows and a line below them that tells the number, or the message
that there is nothing to show. -/
def IsCounted (o : Options) (count : Nat) (noun : String) (below text : List Char) : Prop :=
  (count = 0 → text = o.paint muted ("No " ++ noun ++ "s found.").toList ++ ['\n']) ∧
    (count ≠ 0 → ∃ headings rows, rows.length = count ∧
      text = table o headings rows ++
        o.paint muted (counted count noun) ++ '\n' :: below)

theorem isCounted_table {o : Options} {headings : List Heading} {rows : List (List Cell)}
    {count : Nat} {noun : String} {below text : List Char} (length : rows.length = count)
    (any : count ≠ 0) (h : text = table o headings rows ++ footer o count noun ++ below) :
    IsCounted o count noun below text := by
  refine ⟨fun none => absurd none any, fun _ => ⟨headings, rows, length, ?_⟩⟩
  rw [h, footer_eq, List.append_assoc, List.append_assoc, List.append_assoc, List.singleton_append]

theorem shownCount_eq_length_iff (element : ValueType (Kind ε))
    (items : List (Value (Kind ε) (Record σ))) : shownCount element items = items.length ↔
      (element = .record .commit ∨ element = .record .file → ∀ v ∈ items, v.isNull = false) := by
  have all : items.countP (!·.isNull) = items.length ↔ ∀ v ∈ items, v.isNull = false := by
    rw [List.countP_eq_length]
    simp
  unfold shownCount
  split
  · simp [all]
  · simp [all]
  · rename_i not_commit not_file
    refine ⟨fun _ record => ?_, fun _ => rfl⟩
    rcases record with rfl | rfl
    · exact absurd rfl not_commit
    · exact absurd rfl not_file

theorem isCounted_commits (o : Options) (list : List Commit) :
    IsCounted o list.length "commit" (belowCommits o list) (commits o list) := by
  cases list with
  | nil => exact ⟨fun _ => rfl, fun any => absurd rfl any⟩
  | cons c rest => exact isCounted_table (List.length_map (commitRow o)) (by simp) rfl

theorem isCounted_files (o : Options) (list : List FileChange) :
    IsCounted o list.length "file" [] (files o list) := by
  cases list with
  | nil => exact ⟨fun _ => rfl, fun any => absurd rfl any⟩
  | cons f rest =>
    exact isCounted_table (List.length_map fileRow) (by simp) (List.append_nil _).symm

theorem isCounted_general {κ ρ : Type} (S : Schema κ ρ) (o : Options) (type : ValueType κ)
    {items : List (Value κ ρ)} (any : items ≠ []) :
    IsCounted o items.length "row" [] (general S o (S.tableOf type items)) := by
  have count : (S.tableOf type items).rowCount = items.length := List.length_map ..
  rw [← count]
  refine isCounted_table (List.length_map ..) ?_ (List.append_nil _).symm
  rwa [count, Ne, List.length_eq_zero_iff]

/-- The table of a sequence has a row for each item that counts. -/
theorem isCounted_result (x : Extension ε σ) (o : Options) {element : ValueType (Kind ε)}
    {items : List (Value (Kind ε) (Record σ))} (origin : Option Nat)
    (typed : ∀ v ∈ items, x.schema.Admits element v) (any : items ≠ []) :
    IsCounted o (shownCount element items) (noun element) (below o element items)
      (result x o (.sequence element items origin)) := by
  have rows := isCounted_general x.schema o element any
  obtain ⟨first, rest, rfl⟩ := List.exists_cons_of_ne_nil any
  cases element with
  | record kind =>
    cases kind with
    | commit =>
      have listed := isCounted_commits o (commitsOf (first :: rest))
      rwa [length_commitsOf x typed] at listed
    | file =>
      have listed := isCounted_files o (filesOf (first :: rest))
      rwa [length_filesOf x typed] at listed
    | _ => exact rows
  | _ => exact rows

end Screen

/-! ## The law -/

open Screen

theorem columnsOf_ne_nil (type : ValueType (Kind Empty)) :
    Extension.nothing.schema.columnsOf type ≠ [] := by
  have some_column : (Extension.nothing.schema.columnsOf type).isEmpty = false := by
    cases type with
    | record kind =>
      cases kind with
      | other e => exact e.elim
      | _ => cbv
    | _ => rfl
  intro none
  rw [none] at some_column
  cases some_column

/-- A sequence that a query over commits gives, with some items in it. Its CSV has a record
for each item and its JSON is an array with an element for each. Its table counts the rows
that it has: all items, but of commits and of files only those that are not Null, and if
there are none of them the table is a message. So the three agree, unless some item of a
sequence of commits or of files is Null. The collection may have any name. -/
theorem every_form_of_output_has_every_item_but_null (name : String) (commits : List Commit)
    (query : String) (element : ValueType (Kind Empty))
    (items : List (Value (Kind Empty) (Record Empty))) (origin : Option Nat)
    (run : Plan.runText Extension.nothing.schema { Root.ofCommits commits with name := name }
      query = .ok (.sequence element items origin)) (any : items ≠ []) :
    let S := Extension.nothing.schema
    let v : Value (Kind Empty) (Record Empty) := .sequence element items origin
    let count := shownCount element items
    (∃ header rows, Csv.readRecords (Csv.ofValue S v) = some (header :: rows) ∧
        rows.length = items.length) ∧
      (∃ js, S.HasJson v (.array js) ∧ js.length = items.length ∧
        S.jsonText? v = some (Json.array js).toText) ∧
      (∀ o, IsCounted o count (noun element) (below o element items) (result .nothing o v)) ∧
      (count = items.length ↔ (element = .record .commit ∨ element = .record .file →
        ∀ w ∈ items, w.isNull = false)) := by
  intro S v count
  obtain ⟨type, fits⟩ := fits_of_runText run
  refine ⟨?_, ?_, fun o => ?_, shownCount_eq_length_iff element items⟩
  · refine ⟨_, _, Csv.readRecords_ofValue S (columnsOf_ne_nil element), ?_⟩
    rw [List.length_map]
    exact List.length_map ..
  · obtain ⟨js, all⟩ := exists_images fun w (_ : w ∈ items) => (finite_nothing w).hasJson
    have json : S.HasJson v (.array js) := hasJson_sequence all origin
    exact ⟨js, json, all.length_eq.symm, json.jsonText?_eq⟩
  · exact isCounted_result .nothing o origin (fun w hw => (fits.items w hw).1) any

/-- The first file of each commit; a commit that changes none has Null there. -/
def firstFiles : String := "Commits.Select(c => c.Diff.Files.FirstOrDefault())"

def changedFile : FileChange := ⟨"a.txt", none, .modified, false, []⟩

def twoCommits : List Commit := [.blank, { Commit.blank with diff := ⟨[changedFile]⟩ }]

theorem runText_firstFiles :
    Plan.runText Extension.nothing.schema (.ofCommits twoCommits) firstFiles =
      .ok (.ofItems (.record .file) [.null, .ofRecord (.file changedFile)]) := by
  cbv

theorem a_missing_file_is_in_every_form_but_the_table :
    let S := Extension.nothing.schema
    let items : List (Value (Kind Empty) (Record Empty)) :=
      [.null, .ofRecord (.file changedFile)]
    let v := .ofItems (.record .file) items
    Plan.runText S (.ofCommits twoCommits) firstFiles = .ok v ∧ items ≠ [] ∧
      shownCount (.record .file) items = 1 ∧
      (∃ header rows, Csv.readRecords (Csv.ofValue S v) = some (header :: rows) ∧
        rows.length = 2) ∧
      (∃ js, S.HasJson v (.array js) ∧ js.length = 2 ∧
        S.jsonText? v = some (Json.array js).toText) ∧
      ∀ o, IsCounted o 1 "file" [] (result .nothing o v) := by
  intro S items v
  have any : items ≠ [] := List.cons_ne_nil _ _
  obtain ⟨csv, json, shown, -⟩ := every_form_of_output_has_every_item_but_null "Commits" twoCommits
    firstFiles (.record .file) items none runText_firstFiles any
  exact ⟨runText_firstFiles, any, rfl, csv, json, shown⟩

/-- The table of these files has one row, and says so; their CSV has two records. -/
theorem a_table_leaves_out_a_missing_file :
    let v : Value (Kind Empty) (Record Empty) :=
      .ofItems (.record .file) [.null, .ofRecord (.file changedFile)]
    Plan.runText Extension.nothing.schema (.ofCommits twoCommits) firstFiles = .ok v ∧
      render .nothing ⟨false, 20, 50, none⟩ v =
        "Status     +   -  Path\n───────────────────────\nModified  +0  -0  a.txt\n(1 file)\n" ∧
      Csv.ofValue Extension.nothing.schema v =
        "Path,OldPath,Status,LinesAdded,LinesDeleted,IsBinary,AddedContent,DeletedContent\n" ++
          ",,,,,,,\n" ++ "a.txt,,Modified,0,0,false,,\n" := by
  refine ⟨runText_firstFiles, ?_, ?_⟩
  · decide +kernel
  · decide +kernel

end CommitQuery
