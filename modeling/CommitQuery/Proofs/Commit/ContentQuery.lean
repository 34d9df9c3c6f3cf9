-- Queries for the commits that a content test holds of, asked of the diff of a commit or of
-- its files one by one: how their texts are read, and that both give the same commits.
import CommitQuery.Proofs.Commit.Search
import CommitQuery.Proofs.Plan.Fusion
import CommitQuery.Proofs.Query.Written

namespace CommitQuery

open Query Text

/-! ## Tests that do not fail -/

section Walks

variable {ε α β : Type} {f : β → Except ε Bool} {image : α → β} {keep : α → Bool}

theorem filterM_map_of_total (h : ∀ a, f (image a) = .ok (keep a)) (items : List α) :
    (items.map image).filterM f = .ok ((items.filter keep).map image) := by
  induction items with
  | nil => rfl
  | cons a rest ih =>
    rw [List.map_cons, filterM_cons, h, ih, List.filter_cons]
    cases keep a <;> rfl

theorem findM?_map_of_total (h : ∀ a, f (image a) = .ok (keep a)) (items : List α) :
    (items.map image).findM? f = .ok ((items.find? keep).map image) := by
  induction items with
  | nil => rfl
  | cons a rest ih =>
    rw [List.map_cons, List.findM?, h, List.find?_cons]
    cases keep a with
    | true => rfl
    | false => exact ih

end Walks

/-! ## Texts of calls and lambdas -/

namespace Query

/-- A name starts as names do and goes on as they do. -/
theorem isName_iff {x : String} :
    IsName x ↔ (x.toList.head?.any startsName && x.toList.all continuesName) = true := by
  rw [Bool.and_eq_true, List.all_eq_true]
  constructor
  · intro h
    refine ⟨?_, h.continues⟩
    unfold IsName at h
    generalize x.toList = w at h
    cases h with
    | name hc hrest => exact hc
    | sign h => cases h
  · rintro ⟨starts, continues⟩
    cases hx : x.toList with
    | nil =>
      rw [hx] at starts
      cases starts
    | cons c rest =>
      rw [hx] at starts continues
      have same : x = String.ofList (c :: rest) := by rw [← hx, String.ofList_toList]
      rw [IsName, hx, same]
      exact .name starts (List.forall_mem_cons.mp continues).2

instance (x : String) : Decidable (IsName x) := decidable_of_iff _ isName_iff.symm

section Spells

variable {rest : List Char} {ls : List Lexeme}

theorem Spells.name {x : String} (h : Spells rest ls) (hx : IsName x) (apart : Apart rest) :
    Spells (x.toList ++ rest) (.name x :: ls) :=
  h.lexeme hx (apart.name x)

theorem Spells.field {x : String} (h : Spells rest ls) (hx : IsName x) (apart : Apart rest) :
    Spells ('.' :: x.toList ++ rest) (.dot :: .name x :: ls) :=
  (h.name hx apart).sign rfl rfl

theorem Spells.call {x : String} (h : Spells rest ls) (hx : IsName x) :
    Spells ('.' :: x.toList ++ '(' :: rest) (.dot :: .name x :: .openParen :: ls) :=
  (h.sign (l := .openParen) rfl rfl).field hx (apart_cons (by decide) _)

theorem Spells.lambda {x : String} (h : Spells rest ls) (hx : IsName x) :
    Spells (x.toList ++ " => ".toList ++ rest) (.name x :: .arrow :: ls) := by
  have arrow := h.space.lexeme (l := .arrow) (.sign (s := ['=', '>']) rfl) rfl
  have whole := arrow.space.name hx (apart_cons (by decide) _)
  simpa using whole

theorem Spells.close (h : Spells rest ls) : Spells (')' :: rest) (.closeParen :: ls) :=
  h.sign rfl rfl

/-- A text whose lexemes are derived as a query is a text of that query. -/
theorem Spells.parse {query : String} {e : Expr} (h : Spells query.toList ls)
    (derived : Grammar.Expression ls e) : Expr.parse query = .ok e := by
  obtain ⟨ts, hts, rfl⟩ := h.tokens
  rw [String.ofList_toList] at hts
  exact parse_eq_ok.mpr ⟨ts, hts, ofTokens_eq_ok.mpr derived.result⟩

end Spells

theorem Grammar.Operand.alone {ls : List Lexeme} {e : Expr} (h : Grammar.Operand ls e) :
    Grammar.Expression ls e := .either (.one (.one (.one h)))

end Query

/-! ## The queries -/

namespace ContentTest

variable (k : ContentTest) (q : Char) (t : String)

/-- The text of a call of a test. -/
def callText : String :=
  "." ++ k.name ++ "(" ++ String.singleton q ++ t ++ String.singleton q ++ ")"

/-- The text of the query for the commits whose changes a test holds of. -/
def diffText : String := "Commits.Where(c => c.Diff" ++ k.callText q t ++ ")"

/-- The text of the query for the commits with a file that a test holds of. -/
def filesText : String :=
  "Commits.Where(c => c.Diff.Files.Any(f => f" ++ k.callText q t ++ "))"

/-- The query for the commits whose changes a test holds of. -/
def diffQuery : Expr :=
  .call (.name "Commits") "Where"
    [.lambda "c" (.call (.member (.name "c") "Diff") k.name [.text t])]

/-- The query for the commits with a file that a test holds of. -/
def filesQuery : Expr :=
  .call (.name "Commits") "Where"
    [.lambda "c" (.call (.member (.member (.name "c") "Diff") "Files") "Any"
      [.lambda "f" (.call (.name "f") k.name [.text t])])]

/-! ### Parsing -/

theorem toList_around (before inside after : String) :
    (before ++ inside ++ after).toList = before.toList ++ (inside.toList ++ after.toList) := by
  rw [String.toList_append, String.toList_append, List.append_assoc]

/-- How both queries start. -/
def front : String := "Commits.Where(c => c.Diff"

theorem spells_front {rest : List Char} {ls : List Lexeme} (h : Spells rest ls)
    (apart : Apart rest) : Spells (front.toList ++ rest)
      (.name "Commits" :: .dot :: .name "Where" :: .openParen :: .name "c" :: .arrow ::
        .name "c" :: .dot :: .name "Diff" :: ls) := by
  have body := (h.field (x := "Diff") (by decide +kernel) apart).name (x := "c")
    (by decide +kernel) (apart_cons (by decide) _)
  have kept := (body.lambda (x := "c") (by decide +kernel)).call (x := "Where") (by decide +kernel)
  have whole := kept.name (x := "Commits") (by decide +kernel) (apart_cons (by decide) _)
  simpa [front] using whole

/-- How the second one goes on to the files. -/
def toFiles : String := ".Files.Any(f => f"

theorem spells_toFiles {rest : List Char} {ls : List Lexeme} (h : Spells rest ls)
    (apart : Apart rest) : Spells (toFiles.toList ++ rest)
      (.dot :: .name "Files" :: .dot :: .name "Any" :: .openParen :: .name "f" :: .arrow ::
        .name "f" :: ls) := by
  have test := (h.name (x := "f") (by decide +kernel) apart).lambda (x := "f") (by decide +kernel)
  have some := test.call (x := "Any") (by decide +kernel)
  have whole := some.field (x := "Files") (by decide +kernel) (apart_cons (by decide) _)
  simpa [toFiles] using whole

theorem isName_name : IsName k.name := by
  cases k <;> decide +kernel

variable {q t}

theorem spells_callText (hq : isQuote q = true) (ht : q ∉ t.toList) {rest : List Char}
    {ls : List Lexeme} (h : Spells rest ls) : Spells ((k.callText q t).toList ++ rest)
      (.dot :: .name k.name :: .openParen :: .text t :: .closeParen :: ls) := by
  have literal : (Lexeme.text t).Spelled (q :: t.toList ++ [q]) := by
    have spelled := Lexeme.Spelled.text hq ht
    rwa [String.ofList_toList] at spelled
  have whole := (h.close.lexeme literal rfl).call k.isName_name
  simpa [callText] using whole

theorem apart_callText (rest : List Char) : Apart ((k.callText q t).toList ++ rest) := by
  have dot : (k.callText q t).toList ++ rest = '.' :: ((k.name ++ "(" ++ String.singleton q ++ t ++
    String.singleton q ++ ")").toList ++ rest) := by simp [callText]
  rw [dot]
  exact apart_cons (by decide) _

theorem parse_diffText (hq : isQuote q = true) (ht : q ∉ t.toList) :
    Expr.parse (k.diffText q t) = .ok (k.diffQuery t) := by
  have close : Spells ")".toList [.closeParen] := spells_nil.close
  have whole := spells_front (k.spells_callText hq ht close) (k.apart_callText _)
  rw [← toList_around] at whole
  have test := (((Grammar.Operand.name "c").member "Diff").call k.name
    (.some (.one (Grammar.Operand.text t).alone))).alone
  exact whole.parse
    ((Grammar.Operand.name "Commits").call "Where" (.some (.one (.lambda (.bare "c") test)))).alone

theorem parse_filesText (hq : isQuote q = true) (ht : q ∉ t.toList) :
    Expr.parse (k.filesText q t) = .ok (k.filesQuery t) := by
  have close : Spells "))".toList [.closeParen, .closeParen] := spells_nil.close.close
  have files := spells_toFiles (k.spells_callText hq ht close) (k.apart_callText _)
  have whole := spells_front files (apart_cons (by decide) _)
  have split : "Commits.Where(c => c.Diff.Files.Any(f => f" = front ++ toFiles := by decide +kernel
  rw [← List.append_assoc, ← String.toList_append, ← split, ← toList_around] at whole
  have test := ((Grammar.Operand.name "f").call k.name
    (.some (.one (Grammar.Operand.text t).alone))).alone
  have some := ((((Grammar.Operand.name "c").member "Diff").member "Files").call "Any"
    (.some (.one (.lambda (.bare "f") test)))).alone
  exact whole.parse
    ((Grammar.Operand.name "Commits").call "Where" (.some (.one (.lambda (.bare "c") some)))).alone

end ContentTest

/-! ## Calls in compiled queries -/

namespace Plan

section Calls

variable {κ ρ : Type} {S : Schema κ ρ} {target : Expr} {source : Plan κ ρ} {env : Environment κ ρ}

theorem meaning_member {m : Member κ ρ} {v : Value κ ρ} (h : meaning S env source = .ok v)
    (some : v.isNull = false) : meaning S env (.member source m) = .ok (m.get v) := by
  rw [meaning, h]
  exact if_neg (by simp [some])

/-- The test of a record on a text that the query gives. -/
theorem meaning_recordTest {α : Type} {names : Schema κ ρ} {read : ρ → Option α}
    {name text : String} {test : α → String → Bool} {r : ρ} {origin : Option Nat} {a : α}
    (h : meaning S env source = .ok (.record r origin)) (known : read r = some a) :
    meaning S env (.invoke source (recordTest names read name test) [.constant (.text text)]) =
      .ok (.bool (test a text)) := by
  have result : (recordTest names read name test).call (.record r origin) [.text text] =
      .ok (.bool (test a text)) := by
    simp only [recordTest, Schema.recordReceiver, known]
    rfl
  rw [meaning, h]
  show ((recordTest names read name test).call _ _).mapError _ = _
  rw [result]
  rfl

section Total

variable {α : Type} {element : ValueType κ} {items : List α} {image : α → Value κ ρ}
  {b : Binder κ} {body : Plan κ ρ} {keep : α → Bool}
  (h : ∀ a, meaning S ((b.name, image a) :: env) body = .ok (.bool (keep a)))
include h

theorem truth_of_total (a : α) :
    (do return truth (← meaning S ((b.name, image a) :: env) body)) =
      (.ok (keep a) : Except RuntimeError Bool) := by
  rw [h]
  rfl

variable (hs : meaning S env source = .ok (.ofItems element (items.map image)))
include hs

/-- A condition that fails on no item keeps items as a filter of lists does. -/
theorem meaning_filter_of_total : meaning S env (.filter source b body) =
    .ok (.ofItems (source.type S).element ((items.filter keep).map image)) := by
  have kept := filterM_map_of_total (f := fun v => do
    return truth (← meaning S ((b.name, v) :: env) body)) (truth_of_total h) items
  rw [meaning, hs]
  exact bind_eq_ok.mpr ⟨_, rfl, bind_eq_ok.mpr ⟨_, rfl, bind_eq_ok.mpr ⟨_, kept, rfl⟩⟩⟩

theorem meaning_any_of_total : meaning S env (.findWhere source .any b body) =
    .ok (.bool (items.any keep)) := by
  have found := findM?_map_of_total (f := fun v => do
    return truth (← meaning S ((b.name, v) :: env) body)) (truth_of_total h) items
  rw [meaning, hs]
  refine bind_eq_ok.mpr ⟨_, rfl, bind_eq_ok.mpr ⟨_, rfl, bind_eq_ok.mpr ⟨_, found, ?_⟩⟩⟩
  rw [Option.isSome_map, List.isSome_find?]
  rfl

end Total

variable [DecidableEq κ] {root : Root κ ρ} {scope : Scope κ} {element : Option (ValueType κ)}

/-- A call of the only method of its name that takes a text. -/
theorem compileIn_textCall {name text : String} {m : Method κ ρ} {kind : κ}
    (value : target.isLambda = false) (hs : compileIn S root scope element target = .ok source)
    (ts : source.type S = .record kind) (hm : S.findMethods (.record kind) name 1 = [m])
    (takes : m.parameters = [.text]) :
    compileIn S root scope element (.call target name [.text text]) =
      .ok (.invoke source m [.constant (.text text)]) := by
  have place : requireValue .methodTarget target = .ok () := requireValue_eq_ok.mpr value
  rw [compileIn, place, hs]
  simp only [bind, Except.bind, ts, compileAll, compileIn, pure, Except.pure]
  simp [ofCall, ts, hm, chooseMethod?, takes, type, Schema.typeOf, coerce, ValueType.isNumeric]

end Calls

end Plan

namespace ContentTest

/-! ### Running -/

section Members

variable {ε σ : Type} (x : Extension ε σ) (k : ContentTest)

/-- The diff of a commit, as a member. -/
def diffMember : Member (Kind ε) (Record σ) :=
  Records.commitMember "Diff" (.record .diff) fun c => .ofRecord (.diff c.diff)

/-- The files of a diff, as a member. -/
def filesMember : Member (Kind ε) (Record σ) :=
  Records.diffMember "Files" (.sequence (.record .file)) fun d =>
    .ofItems (.record .file) (d.files.map fun f => .ofRecord (.file f))

def diffMethod : Method (Kind ε) (Record σ) := recordTest x.names Record.diff? k.name k.ofDiff

def fileMethod : Method (Kind ε) (Record σ) := recordTest x.names Record.file? k.name k.ofFile

theorem findMember?_diff : x.schema.findMember? (.record .commit) "Diff" = some diffMember := by
  cbv

theorem findMember?_files : x.schema.findMember? (.record .diff) "Files" = some filesMember := by
  cbv

theorem findMethods_diff :
    x.schema.findMethods (.record .diff) k.name 1 = [k.diffMethod x] := by
  cases k <;> cbv

theorem findMethods_file :
    x.schema.findMethods (.record .file) k.name 1 = [k.fileMethod x] := by
  cases k <;> cbv

end Members

section Runs

open Plan

variable {ε σ : Type} (x : Extension ε σ) (commits : List Commit) (k : ContentTest) (t : String)

/-- The parameter of a lambda over commits. -/
def commitBinder : Binder (Kind ε) := Scope.bind [] "c" (.record .commit)

/-- The parameter of a lambda over files within one over commits. -/
def fileBinder : Binder (Kind ε) := Scope.bind [commitBinder] "f" (.record .file)

/-- The diff of the commit in a lambda. -/
def diffPlan : Plan (Kind ε) (Record σ) := .member (.parameter commitBinder) diffMember

theorem meaning_diff (c : Commit) :
    meaning x.schema [("c", .ofRecord (.commit c))] diffPlan = .ok (.ofRecord (.diff c.diff)) := by
  have parameter : meaning x.schema [("c", Value.ofRecord (Record.commit c))]
      (.parameter commitBinder) = .ok (.ofRecord (.commit c)) := by
    simp [meaning, commitBinder, Scope.bind]
  exact meaning_member parameter rfl

/-- The condition of the first query. -/
def diffTest : Plan (Kind ε) (Record σ) :=
  .invoke diffPlan (k.diffMethod x) [.constant (.text t)]

theorem meaning_diffTest (c : Commit) :
    meaning x.schema [("c", .ofRecord (.commit c))] (k.diffTest x t) =
      .ok (.bool (k.ofDiff c.diff t)) :=
  meaning_recordTest (meaning_diff x c) rfl

/-- The condition on files in the second query. -/
def fileTest : Plan (Kind ε) (Record σ) :=
  .invoke (.parameter fileBinder) (k.fileMethod x) [.constant (.text t)]

theorem meaning_fileTest (f : FileChange) (c : Commit) :
    meaning x.schema [("f", .ofRecord (.file f)), ("c", .ofRecord (.commit c))] (k.fileTest x t) =
      .ok (.bool (k.ofFile f t)) := by
  have parameter : meaning x.schema [("f", Value.ofRecord (Record.file f)),
      ("c", .ofRecord (.commit c))] (.parameter fileBinder) = .ok (.ofRecord (.file f)) := by
    simp [meaning, fileBinder, Scope.bind]
  exact meaning_recordTest parameter rfl

/-- The condition of the second query. -/
def filesTest : Plan (Kind ε) (Record σ) :=
  .findWhere (.member diffPlan filesMember) .any fileBinder (k.fileTest x t)

/-- A test of the files of a commit one by one is the test of its diff. -/
theorem meaning_filesTest (c : Commit) :
    meaning x.schema [("c", .ofRecord (.commit c))] (k.filesTest x t) =
      .ok (.bool (k.ofDiff c.diff t)) := by
  rw [ofDiff_eq]
  exact meaning_any_of_total (fun f => k.meaning_fileTest x t f c)
    (meaning_member (meaning_diff x c) rfl)

variable [DecidableEq ε]

theorem compileIn_commits : compileIn x.schema (Root.ofCommits commits) [] none (.name "Commits") =
    .ok (.constant (Root.ofCommits commits).value) := by
  simp [compileIn, ofName, Scope.lookup?, Root.ofCommits]

theorem compileIn_diff (element : Option (ValueType (Kind ε))) :
    compileIn x.schema (Root.ofCommits commits) [commitBinder] element
      (.member (.name "c") "Diff") = .ok diffPlan := by
  refine compileIn_member_eq rfl ?_ (findMember?_diff x)
  simp [compileIn, ofName, Scope.lookup?, commitBinder, Scope.bind]

theorem condition_diffTest :
    Condition x.schema (Root.ofCommits commits) [] (.record .commit) "c"
      (.call (.member (.name "c") "Diff") k.name [.text t]) (k.diffTest x t) := by
  refine condition_iff.mpr ⟨rfl, ?_, rfl⟩
  exact compileIn_textCall rfl (compileIn_diff x commits _) rfl (k.findMethods_diff x) rfl

theorem condition_fileTest :
    Condition x.schema (Root.ofCommits commits) [commitBinder] (.record .file) "f"
      (.call (.name "f") k.name [.text t]) (k.fileTest x t) := by
  refine condition_iff.mpr ⟨rfl, ?_, rfl⟩
  refine compileIn_textCall rfl ?_ rfl (k.findMethods_file x) rfl
  simp [compileIn, ofName, Scope.lookup?, fileBinder, Scope.bind]

theorem condition_filesTest :
    Condition x.schema (Root.ofCommits commits) [] (.record .commit) "c"
      (.call (.member (.member (.name "c") "Diff") "Files") "Any"
        [.lambda "f" (.call (.name "f") k.name [.text t])]) (k.filesTest x t) := by
  refine condition_iff.mpr ⟨rfl, ?_, rfl⟩
  have files := compileIn_member_eq rfl (compileIn_diff x commits (some (.record .commit)))
    (findMember?_files x)
  refine (compileIn_askedWhere files rfl .any "f" _).trans ?_
  exact (ofLambda_eq_ok fun _ => rfl).mpr ⟨_, k.condition_fileTest x commits t, rfl⟩

/-- A query for commits gives those that its condition holds of, if that fails on none. -/
theorem runText_commits {query : String} {a : Expr} {keep : Commit → Bool}
    {body : Plan (Kind ε) (Record σ)}
    (parsed : Expr.parse query = .ok (.call (.name "Commits") "Where" [.lambda "c" a]))
    (hb : Condition x.schema (Root.ofCommits commits) [] (.record .commit) "c" a body)
    (h : ∀ c, meaning x.schema [("c", .ofRecord (.commit c))] body = .ok (.bool (keep c))) :
    runText x.schema (Root.ofCommits commits) query = .ok (.ofCommits (commits.filter keep)) := by
  have compiled : compile x.schema (Root.ofCommits commits)
      (.call (.name "Commits") "Where" [.lambda "c" a]) =
        .ok (.filter (.constant (Root.ofCommits commits).value) commitBinder body) :=
    bind_eq_ok.mpr ⟨(), rfl,
      (compileIn_filtered_eq_ok (compileIn_commits x commits) rfl).mpr ⟨body, hb, rfl⟩⟩
  have kept : meaning x.schema [] (.filter (.constant (Root.ofCommits commits).value)
      commitBinder body) = _ := meaning_filter_of_total h rfl
  rw [runText, compileText, parsed]
  refine bind_eq_ok.mpr ⟨_, compiled, ?_⟩
  rw [(wellFormed_compile compiled).1.execute_eq, kept]
  rfl

end Runs

end ContentTest

end CommitQuery
