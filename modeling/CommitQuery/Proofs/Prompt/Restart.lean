-- A session that is closed and opened again over its files goes on as if it had never been
-- closed. Whatever the files hold, the history of a session stays within its limit.
import Mathlib
import CommitQuery.Proofs.Commit.Honest
import CommitQuery.Proofs.Prompt.Session
import CommitQuery.Proofs.Store.Files

namespace CommitQuery.Session

variable {ε σ : Type} [DecidableEq ε] (x : Extension ε σ)

/-! ## What the files hold -/

/-- A session whose files hold what it remembers, up to its last query. -/
structure Kept (s : Session) : Prop where
  files : ∃ f, s.files = some f ∧
    (readHistory f.history).withLimit s.settings.historySize = s.history ∧
      readBookmarks f.bookmarks = s.bookmarks
  fits : s.history.Fits s.settings.historySize
  times : s.history.InUtc
  own : ∀ b ∈ s.bookmarks, b.isBuiltin = false ∧ b.InUtc

theorem kept_restored (settings : Settings) : Kept (restored settings ⟨none, none⟩) where
  files := ⟨_, rfl, rfl, rfl⟩
  fits := History.fits_withLimit _ _
  times := by
    intro e he
    cases List.mem_of_mem_drop he
  own := by
    intro b hb
    cases hb

/-- A history that was written is the one that a new session starts with. -/
theorem readHistory_save {h : History} {limit : UInt64} (fits : h.Fits limit) (times : h.InUtc) :
    (readHistory (some h.save)).withLimit limit = h := by
  have read : readHistory (some h.save) = h := by
    rw [readHistory, Option.bind_some, History.load?_save times, Option.getD_some]
  rw [read, fits.withLimit]

theorem readBookmarks_save {l : List Bookmark} (own : ∀ b ∈ l, b.isBuiltin = false ∧ b.InUtc) :
    readBookmarks (some (Bookmark.save l)) = l := by
  have all : l.filter (!·.isBuiltin) = l := by
    rw [List.filter_eq_self]
    intro b hb
    rw [(own b hb).1, Bool.not_false]
  rw [readBookmarks, Option.bind_some, Bookmark.load?_save fun b hb _ => (own b hb).2, all,
    Option.getD_some]

/-- A query that is added is in the file of the history. -/
theorem Kept.add {s : Session} (h : Kept s) {e : HistoryEntry} (now : e.time.IsUtc)
    (last : Option String) :
    Kept (keepHistory { s with history := s.history.add e, lastQuery := last }) := by
  obtain ⟨f, files, -, bookmarks⟩ := h.files
  have fits : (s.history.add e).Fits s.settings.historySize := h.fits.add e
  have times : (s.history.add e).InUtc := by
    intro a ha
    rcases History.mem_entries_add ha with rfl | ha
    · exact now
    · exact h.times a ha
  refine ⟨⟨{ f with history := some (s.history.add e).save }, ?_, readHistory_save fits times,
    bookmarks⟩, fits, times, h.own⟩
  simp [keepHistory, files]

/-- A bookmark that is saved is in the file of the bookmarks. -/
theorem Kept.save {s : Session} (h : Kept s) {b : Bookmark} (own : b.isBuiltin = false)
    (times : b.InUtc) :
    Kept (keepBookmarks { s with bookmarks := Bookmark.saved s.bookmarks b }) := by
  obtain ⟨f, files, history, -⟩ := h.files
  have more : ∀ c ∈ Bookmark.saved s.bookmarks b, c.isBuiltin = false ∧ c.InUtc := by
    intro c hc
    rcases Bookmark.mem_saved hc with rfl | hc
    · exact ⟨own, times⟩
    · exact h.own c hc
  refine ⟨⟨{ f with bookmarks := some (Bookmark.save (Bookmark.saved s.bookmarks b)) }, ?_, history,
    readBookmarks_save more⟩, h.fits, h.times, more⟩
  simp [keepBookmarks, files]

/-- Each line leaves the files holding what is remembered after it. -/
theorem Kept.handle {s : Session} (h : Kept s) {here : Surroundings ε σ} (now : here.now.IsUtc)
    (line : String) : Kept (handle x here s line).2 := by
  rcases handle_cases x here s line with ⟨q, -, after⟩ | ⟨name, q, -, -, -, after⟩ | ⟨-, -, after⟩
  · rw [after]
    exact h.add (e := entryOf x here q) now _
  · rw [after]
    exact h.save rfl ⟨now, by simp [Bookmark.ofUser]⟩
  · rw [after]
    exact h

theorem Kept.after {s : Session} (h : Kept s) {lines : List (Surroundings ε σ × String)}
    (now : ∀ line ∈ lines, line.1.now.IsUtc) : Kept (after x s lines) := by
  induction lines using List.reverseRecOn with
  | nil => exact h
  | append_singleton lines line ih =>
    have before := ih fun l hl => now l (List.mem_append_left _ hl)
    rw [after_concat]
    exact before.handle x (now line (by simp)) line.2

/-- A session that is opened over the files of another remembers what that one did, up to
its last query. -/
theorem Kept.restored {s : Session} {settings : Settings} (h : Kept s)
    (same : s.settings = settings) :
    ∃ f, s.files = some f ∧ restored settings f = { s with lastQuery := none } := by
  obtain ⟨f, files, history, bookmarks⟩ := h.files
  subst same
  refine ⟨f, files, ?_⟩
  rw [Session.restored, history, bookmarks, ← files]

/-! ## Saving after a restart -/

/-- Every line that saves comes after a query that had a value. -/
def SavesAnswered (lines : List (Surroundings ε σ × String)) : Prop :=
  ∀ before line rest name, lines = before ++ line :: rest → Command.parse line.2 = .save name →
    ∃ earlier ∈ before, (answered? x earlier).isSome = true

/-- It is enough to start with a query that has a value. -/
theorem savesAnswered_of_head {line : Surroundings ε σ × String}
    (h : (answered? x line).isSome = true) (rest : List (Surroundings ε σ × String)) :
    SavesAnswered x (line :: rest) := by
  intro before saving after name split is_save
  cases before with
  | nil =>
    cases split
    simp [answered?, is_save] at h
  | cons first more =>
    cases split
    exact ⟨line, List.mem_cons_self, h⟩

theorem lastAnswered_isSome {lines : List (Surroundings ε σ × String)}
    (h : ∃ line ∈ lines, (answered? x line).isSome = true) :
    (lastAnswered x lines).isSome = true := by
  obtain ⟨line, hline, answered⟩ := h
  obtain ⟨q, hq⟩ := Option.isSome_iff_exists.mp answered
  have member : q ∈ lines.filterMap (answered? x) := List.mem_filterMap.mpr ⟨line, hline, hq⟩
  rw [lastAnswered, List.getLast?_eq_some_getLast (List.ne_nil_of_mem member), Option.isSome_some]

/-- What was answered before the restart is not saved after it. -/
theorem saves_after_restart (first before : List (Surroundings ε σ × String))
    {lines : List (Surroundings ε σ × String)} (h : SavesAnswered x (before ++ lines)) :
    saves x (first ++ before) lines = saves x before lines := by
  induction lines generalizing before with
  | nil => rfl
  | cons line rest ih =>
    have same : saved? x (first ++ before) line = saved? x before line := by
      unfold saved?
      split
      · rename_i name is_save
        have some_answer := lastAnswered_isSome x (h before line rest name rfl is_save)
        rw [lastAnswered_append, Option.or_of_isSome some_answer]
      · rfl
    have more := ih (before ++ [line]) (by simpa using h)
    rw [saves, saves, same, List.append_assoc, more]

/-! ## Lines that differ in times -/

/-- Two lines with one text that find the same commits at the same place, at whatever time. -/
def SameButTime (a b : Surroundings ε σ × String) : Prop :=
  a.2 = b.2 ∧ a.1.location = b.1.location ∧ a.1.load = b.1.load

section SameButTime

variable {a b : Surroundings ε σ × String} (same : SameButTime a b)

include same

theorem answers_sameButTime (q : String) : answers x a.1 q = answers x b.1 q := by
  unfold answers
  rw [same.2.2]

theorem ran?_sameButTime : (ran? x a).map History.told = (ran? x b).map History.told := by
  unfold ran?
  rw [same.1]
  split
  · simp [History.told, entryOf, same.2.1, answers_sameButTime x same]
  · rfl

theorem answered?_sameButTime : answered? x a = answered? x b := by
  unfold answered?
  rw [same.1]
  split
  · rw [answers_sameButTime x same]
  · rfl

theorem saved?_sameButTime {before front : List (Surroundings ε σ × String)}
    (last : lastAnswered x before = lastAnswered x front) :
    (saved? x before a).map (Bookmark.told ·.bookmark) =
      (saved? x front b).map (Bookmark.told ·.bookmark) := by
  unfold saved?
  rw [same.1, last]
  split
  · split
    · rfl
    · rw [Option.map_map, Option.map_map]
      rfl
  · rfl

end SameButTime

section Lists

variable {lines others : List (Surroundings ε σ × String)}
  (same : List.Forall₂ SameButTime lines others)

include same

omit [DecidableEq ε] in
theorem filterMap_sameButTime {α : Type} {f : Surroundings ε σ × String → Option α}
    (h : ∀ {a b}, SameButTime a b → f a = f b) : lines.filterMap f = others.filterMap f := by
  induction same with
  | nil => rfl
  | cons first _ ih => rw [List.filterMap_cons, List.filterMap_cons, h first, ih]

theorem runs_sameButTime : (runs x lines).map History.told = (runs x others).map History.told := by
  unfold runs
  rw [List.map_filterMap, List.map_filterMap]
  exact filterMap_sameButTime same (ran?_sameButTime x)

theorem saves_sameButTime {before front : List (Surroundings ε σ × String)}
    (last : lastAnswered x before = lastAnswered x front) :
    (saves x before lines).map (Bookmark.told ·.bookmark) =
      (saves x front others).map (Bookmark.told ·.bookmark) := by
  induction same generalizing before front with
  | nil => rfl
  | @cons a b _ _ first _ ih =>
    have next : lastAnswered x (before ++ [a]) = lastAnswered x (front ++ [b]) := by
      rw [lastAnswered_concat, lastAnswered_concat, answered?_sameButTime x first, last]
    have saved := congrArg Option.toList (saved?_sameButTime x first last)
    rw [Option.toList_map, Option.toList_map] at saved
    rw [saves, saves, List.map_append, List.map_append, saved, ih next]

end Lists

/-! ## The law -/

/-- A session that is closed after some lines and opened again over the files that it left has,
after more lines, the history and the bookmarks of a session that handled all the lines at one
time or another. Only the last query is forgotten, so that what is saved has to be run again.
And whatever the files hold, damaged or of another limit, the history stays within the limit. -/
theorem a_session_goes_on_where_it_was_closed (settings : Settings) :
    (∀ first second whole : List (Surroundings ε σ × String),
      (∀ line ∈ first, line.1.now.IsUtc) → SavesAnswered x second →
      List.Forall₂ SameButTime (first ++ second) whole →
      ∃ files, (after x (restored settings ⟨none, none⟩) first).files = some files ∧
        ∀ start, start = fresh settings ∨ start = restored settings ⟨none, none⟩ →
          (after x (restored settings files) second).history.entries.map History.told =
              (after x start whole).history.entries.map History.told ∧
            (after x (restored settings files) second).bookmarks.map Bookmark.told =
              (after x start whole).bookmarks.map Bookmark.told) ∧
    ∀ files lines, (after x (restored settings files) lines).history.entries.length ≤
      max settings.historySize.toNat 1 := by
  refine ⟨?_, ?_⟩
  · intro first second whole now answered same
    have unchanged : (after x (restored settings ⟨none, none⟩) first).settings = settings :=
      settings_after x _ first
    obtain ⟨files, left, opened⟩ := ((kept_restored settings).after x now).restored unchanged
    refine ⟨files, left, ?_⟩
    intro start new
    obtain ⟨kept, rfl⟩ : ∃ kept,
        start = ⟨settings, History.empty.withLimit settings.historySize, [], none, kept⟩ := by
      rcases new with rfl | rfl
      · exact ⟨_, rfl⟩
      · exact ⟨_, rfl⟩
    rw [opened]
    refine ⟨?_, ?_⟩
    · -- the second session goes on with the history that the first one had
      have all : (after x { after x (restored settings ⟨none, none⟩) first with lastQuery := none }
          second).history = (runs x (first ++ second)).foldl History.add
            (History.empty.withLimit settings.historySize) := by
        rw [history_after, history_after, runs_append, List.foldl_append]
        rfl
      rw [all, history_after]
      exact (History.SameTold.foldl_add (runs_sameButTime x same) ⟨rfl, rfl⟩).2
    · -- nothing that the second session saves was answered in the first one
      have all : (after x { after x (restored settings ⟨none, none⟩) first with lastQuery := none }
          second).bookmarks =
            ((saves x [] (first ++ second)).map Saving.bookmark).foldl Bookmark.saved [] := by
        rw [bookmarks_after x rfl, bookmarks_after x rfl, saves_append, List.map_append,
          List.foldl_append, List.nil_append, ← saves_after_restart x first [] answered,
          List.append_nil]
        rfl
      have told : (saves x [] (first ++ second)).map (Bookmark.told ·.bookmark) =
          (saves x [] whole).map (Bookmark.told ·.bookmark) := saves_sameButTime x same rfl
      rw [all, bookmarks_after x rfl]
      exact Bookmark.told_foldl_saved (by rw [List.map_map, List.map_map]; exact told) rfl
  · intro files lines
    rw [history_after]
    exact ((History.fits_withLimit _ _).foldl_add _).length_le

/-- A query and a save before the restart, and again after it under the name in small letters. -/
theorem a_saved_query_outlives_a_restart :
    let x := Extension.nothing
    let on (day : Nat) : Surroundings Empty Empty :=
      ⟨"/work", .ok (Root.ofCommits [.blank]), ⟨⟨2025, 1, day⟩, 3, 4, 59, 1500000000, 0⟩, day⟩
    let first := [(on 1, "Commits"), (on 2, "save Mine")]
    let second := [(on 3, "Commits.Count()"), (on 4, "save mine")]
    let whole := [(on 5, "Commits"), (on 6, "save Mine"), (on 7, "Commits.Count()"),
      (on 8, "save mine")]
    (∀ line ∈ first, line.1.now.IsUtc) ∧ SavesAnswered x second ∧
      List.Forall₂ SameButTime (first ++ second) whole ∧
      ∃ files, (after x (restored .standard ⟨none, none⟩) first).files = some files ∧
        ∀ start, start = fresh .standard ∨ start = restored .standard ⟨none, none⟩ →
          (after x (restored .standard files) second).history.entries.map History.told =
              (after x start whole).history.entries.map History.told ∧
            (after x (restored .standard files) second).bookmarks.map Bookmark.told =
              (after x start whole).bookmarks.map Bookmark.told := by
  intro x on first second whole
  have now : ∀ line ∈ first, line.1.now.IsUtc := by
    simp only [first, List.forall_mem_cons]
    exact ⟨⟨rfl, by decide, by decide, by decide, by decide⟩,
      ⟨rfl, by decide, by decide, by decide, by decide⟩, by simp⟩
  have counted : answered? x (on 3, "Commits.Count()") = some "Commits.Count()" := by
    have query : Command.parse "Commits.Count()" = .query "Commits.Count()" := by decide
    have answer : answers x (on 3) "Commits.Count()" = true := by cbv
    simp [answered?, query, answer]
  have answered : SavesAnswered x second := savesAnswered_of_head x (by rw [counted]; rfl) _
  have same : List.Forall₂ SameButTime (first ++ second) whole :=
    .cons ⟨rfl, rfl, rfl⟩ (.cons ⟨rfl, rfl, rfl⟩
      (.cons ⟨rfl, rfl, rfl⟩ (.cons ⟨rfl, rfl, rfl⟩ .nil)))
  exact ⟨now, answered, same,
    (a_session_goes_on_where_it_was_closed x .standard).1 first second whole now answered same⟩

end CommitQuery.Session
