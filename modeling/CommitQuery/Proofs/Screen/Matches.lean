-- The panel of matches below a table of commits shows why each commit of the table is there:
-- the query that the table comes from keeps the commits with lines to show, and no others.
import CommitQuery.Prompt.Session
import CommitQuery.Proofs.Commit.ContentQuery
import CommitQuery.Proofs.Screen.Counts
import CommitQuery.Proofs.Screen.Highlight

namespace CommitQuery

open Query Text

theorem Text.total_eq_sum (ns : List Nat) : total ns = ns.sum := by
  induction ns with
  | nil => rfl
  | cons n rest ih => rw [total, ih, List.sum_cons]

/-! ## The search of a query -/

namespace ContentTest

variable (k : ContentTest) {q : Char} {t : String}

theorem searchOf_diffText (hq : isQuote q = true) (ht : q ∉ t.toList) :
    Session.searchOf (k.diffText q t) = some (k.search t) := by
  rw [Session.searchOf, k.parse_diffText hq ht]
  cases k <;> rfl

theorem searchOf_filesText (hq : isQuote q = true) (ht : q ∉ t.toList) :
    Session.searchOf (k.filesText q t) = some (k.search t) := by
  rw [Session.searchOf, k.parse_filesText hq ht]
  cases k <;> rfl

end ContentTest

/-! ## The panel -/

namespace Screen

/-- A line above or below a match. -/
def contextLine (o : Options) (text : String) : List Char :=
  "      ".toList ++ o.paint muted (truncate text.toList 80) ++ ['\n']

/-- What a panel shows of a match: the path and the kind of the line, and behind an arrow the line
itself, of which some part may be bold, between the lines next to it. -/
def IsEntry (o : Options) (m : MatchedLine) (entry : List Char) : Prop :=
  let color := if m.kind = .deleted then failure else success
  let sign := if m.kind = .deleted then "(-)" else "(+)"
  ∃ before hit after, truncate m.text.toList 80 = before ++ hit ++ after ∧
    ∃ shown, (shown = hit ∨ shown = o.bold highlighted hit) ∧
      entry = "  ".toList ++ o.paint muted m.path.toList ++ ' ' :: o.bold color sign.toList ++
        '\n' :: m.before.elim [] (contextLine o) ++
        "    ".toList ++ o.bold color ['→'] ++ ' ' :: before ++ shown ++ after ++ '\n' ::
        m.after.elim [] (contextLine o)

theorem neighbour_eq (o : Options) (text : Option String) :
    neighbour o text = text.elim [] (contextLine o) := by
  cases text <;> rfl

theorem isEntry_matchedLine (o : Options) (m : MatchedLine) : IsEntry o m (matchedLine o m) := by
  have styles : matchedLine o m = "  ".toList ++ o.paint muted m.path.toList ++ ' ' ::
      o.bold (if m.kind = .deleted then failure else success)
        (if m.kind = .deleted then "(-)" else "(+)").toList ++ '\n' :: neighbour o m.before ++
      "    ".toList ++ o.bold (if m.kind = .deleted then failure else success) ['→'] ++ ' ' ::
        highlight o (truncate m.text.toList 80) m.search.toList ++ '\n' :: neighbour o m.after := by
    obtain ⟨path, kind, text, search, before, after⟩ := m
    cases kind <;> rfl
  rw [styles, neighbour_eq, neighbour_eq]
  rcases highlight_cases o (truncate m.text.toList 80) m.search.toList with
    same | ⟨before, hit, after, ⟨line, shown⟩, -⟩
  · exact ⟨[], truncate m.text.toList 80, [], by simp, _, .inl rfl, by simp [same]⟩
  · exact ⟨before, hit, after, line, _, .inr rfl, by simp [shown]⟩

/-- The part of the panel that shows matches of a commit. -/
def panelSection (o : Options) (c : Commit) (found : List MatchedLine) : List Char :=
  '\n' :: o.paint success c.shortSha.toList ++ ' ' :: o.paint muted c.subject.toList ++
    '\n' :: found.flatMap (matchedLine o)

/-- A panel of a section for each commit, with a number of matches at its end. -/
def panel (o : Options) (text : String) (found : Commit → List MatchedLine)
    (commits : List Commit) (count : Nat) : List Char :=
  '\n' :: o.bold information "Matching lines for".toList ++ " '".toList ++
    o.paint warning text.toList ++ "':\n".toList ++
    commits.flatMap (fun c => panelSection o c (found c)) ++
    '\n' :: (o.paint muted (counted count "matching location") ++ ['\n'])

/-- A sequence of commits is shown as the commits in it. -/
theorem result_ofCommits {ε σ : Type} (x : Extension ε σ) (o : Options) (list : List Commit) :
    result x o (.ofCommits list) = commits o list := by
  have same : commitsOf (list.map fun c => (Value.ofRecord (Record.commit c) :
      Value (Kind ε) (Record σ))) = list := by
    induction list with
    | nil => rfl
    | cons c rest ih => exact congrArg (c :: ·) ih
  exact congrArg (commits o) same

/-- A panel of commits that all have matches leaves none of them out. -/
theorem matchPanel_eq (o : Options) {commits : List Commit} {search : ContentSearch}
    {found : Commit → List MatchedLine}
    (same : ∀ c, found c = c.diff.matchingLines search.text search.added search.deleted)
    (some : ∀ c ∈ commits, found c ≠ []) : matchPanel o commits search =
      panel o search.text found commits (commits.map fun c => (found c).length).sum := by
  simp only [matchPanel, panel, total_eq_sum, List.map_map, List.flatMap_map, ← same]
  have sections : commits.flatMap (fun c => commitMatches o c (found c)) =
      commits.flatMap fun c => panelSection o c (found c) := by
    refine List.flatMap_congr fun c hc => ?_
    rw [commitMatches, if_neg (by simpa using some c hc)]
    rfl
  rw [sections]
  rfl

end Screen

/-! ## The law -/

open Screen

/-- A content test for a text that is written in quotes which the text does not hold, as a
condition on the diff of a commit or on any file of it. Both queries make the same search and
keep the same commits, those in which the search finds lines: the changed lines of the tested
kinds that hold the text in any case. The table of them has a section for every commit in the
panel below, with an entry for each such line of its files that shows the path and the line, and
some entry. The panel tells how many such lines there are over all of these commits and their
files. -/
theorem the_panel_shows_every_commit_of_the_table {ε σ : Type} [DecidableEq ε]
    (x : Extension ε σ) (commits : List Commit) (k : ContentTest) (q : Char) (t : String)
    (hq : isQuote q = true) (ht : q ∉ t.toList) (query : String)
    (hquery : query = k.diffText q t ∨ query = k.filesText q t) :
    let s := k.search t
    let found : Commit → List MatchedLine := fun c => c.diff.matchingLines s.text s.added s.deleted
    let kept := commits.filter fun c => !(found c).isEmpty
    Session.searchOf query = some s ∧
      Plan.runText x.schema (Root.ofCommits commits) query = .ok (.ofCommits kept) ∧
      ∀ session : Session, let o := { session.options with search := some s }
        Session.evaluate? x (.ok (Root.ofCommits commits)) session query .table =
            some ⟨String.ofList (Screen.commits o kept), true⟩ ∧
          (kept ≠ [] → Screen.commits o kept =
            table o commitHeadings (kept.map (commitRow o)) ++
              o.paint muted (counted kept.length "commit") ++ '\n' ::
              panel o t found kept (kept.map fun c => (c.diff.files.map fun f =>
                f.lines.countP fun l => decide (l.Shows k.kinds t)).sum).sum) ∧
          (∀ c, (found c).map (fun m => (m.path, m.line)) = c.diff.files.flatMap fun f =>
            (f.lines.filter fun l => decide (l.Shows k.kinds t)).map (f.path, ·)) ∧
          (∀ c, ∀ m ∈ found c, IsEntry o m (matchedLine o m)) ∧
          ∀ c ∈ kept, found c ≠ [] := by
  intro s found kept
  have search : Session.searchOf query = some s := by
    rcases hquery with rfl | rfl
    · exact k.searchOf_diffText hq ht
    · exact k.searchOf_filesText hq ht
  have tested : kept = commits.filter fun c => k.ofDiff c.diff t := by
    refine List.filter_congr fun c _ => ?_
    rw [Bool.eq_iff_iff, ← k.matchesOf_ne_nil]
    simp [found, s, ContentTest.matchesOf]
  have run : Plan.runText x.schema (Root.ofCommits commits) query = .ok (.ofCommits kept) := by
    rw [tested]
    rcases hquery with rfl | rfl
    · exact ContentTest.runText_commits x commits (k.parse_diffText hq ht)
        (k.condition_diffTest x commits t) (k.meaning_diffTest x t)
    · exact ContentTest.runText_commits x commits (k.parse_filesText hq ht)
        (k.condition_filesTest x commits t) (k.meaning_filesTest x t)
  have shown : ∀ c ∈ kept, found c ≠ [] := fun c hc => by
    simpa using (List.mem_filter.mp hc).2
  refine ⟨search, run, fun session => ⟨?_, fun hkept => ?_, fun c => k.matchesOf_places t c.diff,
    fun _ m _ => isEntry_matchedLine _ m, shown⟩⟩
  · have answer : Session.answer x (.ok (Root.ofCommits commits)) session query =
        .ok (.ofCommits kept) := congrArg (Except.mapError _) run
    simp only [Session.evaluate?, answer, Session.written?, Session.tableText, search, render,
      result_ofCommits, Option.map_some]
  · have panelled := matchPanel_eq { session.options with search := some s } (fun _ => rfl) shown
    rw [Screen.commits, if_neg (by simpa using hkept), footer_eq, List.append_assoc,
      List.append_assoc, List.append_assoc, List.singleton_append]
    simp only [panelled, found]
    simp only [s, ← ContentTest.length_matchesOf]
    rfl

/-- A commit that added a line. -/
def fixing : Commit :=
  { Commit.blank with diff := ⟨[⟨"notes.txt", none, .modified, false, [⟨.added, "Fixed"⟩]⟩]⟩ }

theorem the_panel_shows_the_fixing_commit :
    let query := "Commits.Where(c => c.Diff.AddedContains('fix'))"
    let root : Root (Kind Empty) (Record Empty) := .ofCommits [.blank, fixing]
    isQuote '\'' = true ∧ '\'' ∉ "fix".toList ∧
      (query = ContentTest.added.diffText '\'' "fix" ∨
        query = ContentTest.added.filesText '\'' "fix") ∧
      Session.searchOf query = some ⟨"fix", true, false⟩ ∧
      Plan.runText Extension.nothing.schema root query = .ok (.ofCommits [fixing]) ∧
      ∀ session : Session,
        let o := { session.options with search := some ⟨"fix", true, false⟩ }
        Session.evaluate? Extension.nothing (.ok root) session query .table =
            some ⟨String.ofList (Screen.commits o [fixing]), true⟩ ∧
          Screen.commits o [fixing] =
            table o commitHeadings [commitRow o fixing] ++ o.paint muted "(1 commit)".toList ++
              '\n' :: panel o "fix" (·.diff.matchingLines "fix" true false) [fixing] 1 ∧
          (fixing.diff.matchingLines "fix" true false).map (fun m => (m.path, m.line)) =
            [("notes.txt", ⟨.added, "Fixed"⟩)] := by
  intro query root
  have hq : isQuote '\'' = true := by decide
  have ht : '\'' ∉ "fix".toList := by decide +kernel
  have hquery : query = ContentTest.added.diffText '\'' "fix" := by decide +kernel
  have kept : [Commit.blank, fixing].filter (fun c =>
      !(c.diff.matchingLines "fix" true false).isEmpty) = [fixing] := by decide +kernel
  have law := the_panel_shows_every_commit_of_the_table Extension.nothing [.blank, fixing] .added
    '\'' "fix" hq ht query (.inl hquery)
  have search : ContentTest.added.search "fix" = ⟨"fix", true, false⟩ := rfl
  simp only [search, kept] at law
  obtain ⟨found, run, shown⟩ := law
  refine ⟨hq, ht, .inl hquery, found, run, fun session => ⟨(shown session).1, ?_,
    (shown session).2.2.1 fixing⟩⟩
  refine ((shown session).2.1 (by simp)).trans ?_
  have count : fixing.diff.files.map (fun f => f.lines.countP fun l =>
    decide (l.Shows ContentTest.added.kinds "fix")) = [1] := by decide +kernel
  simp only [List.map_cons, List.map_nil, count]
  rfl

end CommitQuery
