-- Colours change nothing but escape sequences: results and errors that are shown with colours
-- read as they do without, line by line, up to the blanks at the ends of lines.
import CommitQuery.Proofs.Screen.EscapeFree
import CommitQuery.Proofs.Screen.Highlight

namespace CommitQuery.Screen

open CommitQuery.Text

/-! ## Commits -/

variable (o : Options)

theorem sound_signed (c : Color) {sign : Char} (hs : sign ≠ '\x1b') (n : Int) :
    (Cell.colored c (sign :: (toString n).toList)).Sound :=
  sound_colored c (.cons hs (noEscape_toString_int n)) ((visible_toString_int n).behind [sign])

theorem shows_commitRow {c : Commit} (h : ∀ s ∈ c.texts, NoEscape s.toList) {widths : List Nat}
    (length : widths.length = commitHeadings.length) :
    Shows (rowLine (o.withColor true) (commitHeadings.map (·.align)) widths
        (commitRow (o.withColor true) c))
      (rowLine (o.withColor false) (commitHeadings.map (·.align)) widths
        (commitRow (o.withColor false) c)) := by
  have author : NoEscape c.authorName.toList := h _ (by simp [Commit.texts])
  have zipped : ((commitHeadings.map (·.align)).zip widths).length = 6 + 1 := by
    rw [List.length_zip, List.length_map, length]
    rfl
  obtain ⟨place, places, split⟩ := List.exists_cons_of_length_eq_add_one zipped
  have count : places.length = 6 := by
    rw [split] at zipped
    exact Nat.succ.inj zipped
  rw [rowLine_eq, rowLine_eq, split]
  refine shows_line_behind o (noEscape_shortSha h) ?_ place ?_
  · simp only [List.forall_mem_cons]
    exact ⟨sound_plain (noEscape_truncate author _), sound_plain (noEscape_timestamp _),
      sound_plain (noEscape_toString_int _), sound_signed _ (by decide) _,
      sound_signed _ (by decide) _, sound_plain (noEscape_truncate (noEscape_subject h) _),
      List.forall_mem_nil _⟩
  · -- The sign of the added lines is visible, whatever the hash in front of it ends in.
    refine trimEnd_ne_nil (mem_joinCells (List.getElem_mem (n := 3) ?_) ?_) (c := '+') (by decide)
    · simp [count]
    · rw [List.getElem_zipWith]
      exact mem_pad_of_mem List.mem_cons_self _ _

/-! ## Matches -/

theorem reads_highlight {line : List Char} (h : NoEscape line) (search : List Char) :
    Reads (highlight o line search) line := by
  rcases highlight_cases o line search with same | ⟨before, hit, after, ⟨rfl, shown⟩, -⟩
  · rw [same]
    exact reads_self h
  · have front : NoEscape before := h.of_subset fun _ hc => by simp [hc]
    have middle : NoEscape hit := h.of_subset fun _ hc => by simp [hc]
    have back : NoEscape after := h.of_subset fun _ hc => by simp [hc]
    rw [shown]
    exact ((reads_self front).append (reads_bold o _ middle)).append (reads_self back)

theorem highlight_plain (line search : List Char) :
    highlight (o.withColor false) line search = line := rfl

theorem shows_neighbour {text : Option String} (h : ∀ s ∈ text.toList, NoEscape s.toList) :
    Shows (neighbour (o.withColor true) text) (neighbour (o.withColor false) text) := by
  cases text with
  | none => exact reads_nil.shows
  | some s =>
    have shown := noEscape_truncate (h s (List.mem_singleton_self s)) matchLineWidth
    exact ((shows_self (by decide)).append (shows_paint o muted shown)).append
      (shows_self (by decide))

/-- The first line of a match, and the line in front of it. -/
def matchHead (o : Options) (m : MatchedLine) (sign : List Char) (color : Color) : List Char :=
  "  ".toList ++ o.paint muted m.path.toList ++ ' ' :: o.bold color sign ++
    '\n' :: neighbour o m.before

/-- The line of a match, and the line behind it. -/
def matchBody (o : Options) (m : MatchedLine) (color : Color) : List Char :=
  "    ".toList ++ o.bold color ['→'] ++
    ' ' :: highlight o (truncate m.text.toList matchLineWidth) m.search.toList ++
    '\n' :: neighbour o m.after

theorem exists_matchedLine (m : MatchedLine) : ∃ sign color, NoEscape sign ∧
    ∀ o, matchedLine o m = matchHead o m sign color ++ matchBody o m color := by
  have joined : ∀ (sign : List Char) (color : Color) (o : Options),
      matchHead o m sign color ++ matchBody o m color =
        "  ".toList ++ o.paint muted m.path.toList ++ ' ' :: o.bold color sign ++
          '\n' :: neighbour o m.before ++ "    ".toList ++ o.bold color ['→'] ++
          ' ' :: highlight o (truncate m.text.toList matchLineWidth) m.search.toList ++
          '\n' :: neighbour o m.after := by
    intro sign color o
    simp only [matchHead, matchBody, List.append_assoc]
  unfold matchedLine
  cases m.kind with
  | deleted => exact ⟨"(-)".toList, failure, by decide, fun o => (joined _ _ o).symm⟩
  | _ => exact ⟨"(+)".toList, success, by decide, fun o => (joined _ _ o).symm⟩

theorem shows_matchedLine {m : MatchedLine} (h : ∀ s ∈ m.texts, NoEscape s.toList) :
    Shows (matchedLine (o.withColor true) m) (matchedLine (o.withColor false) m) := by
  have path : NoEscape m.path.toList := h _ (by simp [MatchedLine.texts])
  have text : NoEscape m.text.toList := h _ (by simp [MatchedLine.texts])
  have before : ∀ s ∈ m.before.toList, NoEscape s.toList :=
    fun s hs => h s (List.mem_append_left _ (.tail _ (.tail _ (.tail _ hs))))
  have after : ∀ s ∈ m.after.toList, NoEscape s.toList :=
    fun s hs => h s (List.mem_append_right _ hs)
  have line : Shows
      (highlight (o.withColor true) (truncate m.text.toList matchLineWidth) m.search.toList)
      (highlight (o.withColor false) (truncate m.text.toList matchLineWidth) m.search.toList) := by
    rw [highlight_plain]
    exact (reads_highlight _ (noEscape_truncate text matchLineWidth) _).shows
  obtain ⟨sign, color, hs, same⟩ := exists_matchedLine m
  have head : Shows (matchHead (o.withColor true) m sign color)
      (matchHead (o.withColor false) m sign color) :=
    (((shows_self (by decide)).append (shows_paint o muted path)).append
      (.cons (by decide) (shows_bold o color hs))).append
      (.cons (by decide) (shows_neighbour o before))
  have body :
      Shows (matchBody (o.withColor true) m color) (matchBody (o.withColor false) m color) :=
    (((shows_self (by decide)).append (shows_bold o color (by decide))).append
      (.cons (by decide) line)).append (.cons (by decide) (shows_neighbour o after))
  rw [same, same]
  exact head.append body

theorem shows_commitMatches {c : Commit} (hc : ∀ s ∈ c.texts, NoEscape s.toList)
    {found : List MatchedLine} (h : ∀ m ∈ found, ∀ s ∈ m.texts, NoEscape s.toList) :
    Shows (commitMatches (o.withColor true) c found)
      (commitMatches (o.withColor false) c found) := by
  unfold commitMatches
  split
  · exact reads_nil.shows
  · exact (((Shows.cons (by decide) (shows_paint o success (noEscape_shortSha hc))).append
      (.cons (by decide) (shows_paint o muted (noEscape_subject hc)))).append
      (.cons (by decide) (shows_flatMap fun m hm => shows_matchedLine o (h m hm))))

theorem shows_matchPanel {list : List Commit} (h : ∀ c ∈ list, ∀ s ∈ c.texts, NoEscape s.toList)
    {search : Query.ContentSearch} (hs : NoEscape search.text.toList) :
    Shows (matchPanel (o.withColor true) list search)
      (matchPanel (o.withColor false) list search) := by
  have found : ∀ c ∈ list, ∀ m ∈ c.diff.matchingLines search.text search.added search.deleted,
      ∀ s ∈ m.texts, NoEscape s.toList := by
    intro c hc m hm s hs'
    rcases Diff.mem_texts_of_matchingLines hm hs' with rfl | text
    · exact hs
    · exact h c hc s (List.mem_append_right _ text)
  have sections : Shows _ _ := shows_flatMap fun c hc =>
    shows_commitMatches o (h c hc) (found c hc)
  unfold matchPanel
  simp only [List.flatMap_map]
  exact (((((Shows.cons (by decide) (shows_bold o information (by decide))).append
    (shows_self (by decide))).append (shows_paint o warning hs)).append
    (shows_self (by decide))).append sections).append (.cons (by decide)
    (shows_footer o _ (by decide)))

theorem shows_commits {list : List Commit} (h : ∀ c ∈ list, ∀ s ∈ c.texts, NoEscape s.toList)
    (hs : ∀ search ∈ o.search, NoEscape search.text.toList) :
    Shows (commits (o.withColor true) list) (commits (o.withColor false) list) := by
  unfold commits
  split
  · exact shows_message o muted (by decide)
  · refine (Shows.append ?_ (shows_footer o _ (by decide))).append ?_
    · refine shows_table o (by decide) fun row hrow => ?_
      obtain ⟨c, hc, rfl⟩ := List.mem_map.mp hrow
      refine shows_commitRow o (h c hc) (length_columnWidths fun row hrow => ?_)
      obtain ⟨c, -, rfl⟩ := List.mem_map.mp hrow
      rfl
    · have same (on : Bool) : (o.withColor on).search = o.search := rfl
      rw [same, same]
      cases search : o.search with
      | none => exact reads_nil.shows
      | some found => exact shows_matchPanel o h (hs found search)

/-! ## Files -/

theorem sound_status (status : ChangeStatus) :
    (Cell.colored (statusColor status) status.name.toList).Sound := by
  refine sound_colored _ ?_ ?_
  · cases status <;> decide
  · cases status <;> exact visible_of_last (by decide) (by decide)

theorem shows_files {list : List FileChange} (h : ∀ f ∈ list, ∀ s ∈ f.texts, NoEscape s.toList) :
    Shows (files (o.withColor true) list) (files (o.withColor false) list) := by
  unfold files
  split
  · exact shows_message o muted (by decide)
  · refine Shows.append ?_ (shows_footer o _ (by decide))
    refine shows_table o (by decide) fun row hrow => shows_rowLine o ?_ _ _
    obtain ⟨f, hf, rfl⟩ := List.mem_map.mp hrow
    have path : NoEscape (f.shownPath ++ if f.isBinary then " (binary)" else "").toList := by
      rw [String.toList_append]
      refine (noEscape_shownPath (h f hf)).append ?_
      split <;> decide
    simp only [fileRow, List.forall_mem_cons]
    exact ⟨sound_status _, sound_signed _ (by decide) _, sound_signed _ (by decide) _,
      sound_plain path, List.forall_mem_nil _⟩

/-! ## Everything else -/

variable {ε σ : Type} {x : Extension ε σ} {v : Value (Kind ε) (Record σ)}

theorem sound_generalCell (labels : HasLabels x) (h : ∀ s, HasText x v s → NoEscape s.toList) :
    (generalCell x.schema v).Sound := by
  cases v with
  | null =>
    show (Cell.colored muted "(null)".toList).Sound
    exact sound_colored _ (by decide) (visible_of_last (by decide) (by decide))
  | int n => exact sound_colored _ (noEscape_toString_int _) (visible_toString_int _)
  | long n => exact sound_colored _ (noEscape_toString_int _) (visible_toString_int _)
  | _ => exact sound_plain (noEscape_truncate (noEscape_cellText labels h) _)

theorem shows_general (labels : HasLabels x) (type : ValueType (Kind ε))
    {items : List (Value (Kind ε) (Record σ))}
    (h : ∀ v ∈ items, ∀ s, HasText x v s → NoEscape s.toList) :
    Shows (general x.schema (o.withColor true) (x.schema.tableOf type items))
      (general x.schema (o.withColor false) (x.schema.tableOf type items)) := by
  refine Shows.append ?_ (shows_footer o _ (by decide))
  refine shows_table o ?_ fun row hrow => shows_rowLine o ?_ _ _
  · intro heading hh
    obtain ⟨c, hc, rfl⟩ := List.mem_map.mp hh
    obtain ⟨noEscape, line⟩ := labels.columnsOf hc
    exact ⟨noEscape, line⟩
  · obtain ⟨cells, hcells, rfl⟩ := List.mem_map.mp hrow
    obtain ⟨item, hitem, rfl⟩ := List.mem_map.mp hcells
    intro cell hcell
    obtain ⟨v, hv, rfl⟩ := List.mem_map.mp hcell
    obtain ⟨c, hc, rfl⟩ := List.mem_map.mp hv
    exact sound_generalCell labels fun s hs => h item hitem s (hs.of_cell hc)

theorem mem_of_mem_commitsOf {items : List (Value (Kind ε) (Record σ))} {c : Commit}
    (h : c ∈ commitsOf items) : ∃ origin, .record (.commit c) origin ∈ items := by
  obtain ⟨v, hv, read⟩ := List.mem_filterMap.mp h
  split at read
  · cases read
    exact ⟨_, hv⟩
  · cases read

theorem mem_of_mem_filesOf {items : List (Value (Kind ε) (Record σ))} {f : FileChange}
    (h : f ∈ filesOf items) : ∃ origin, .record (.file f) origin ∈ items := by
  obtain ⟨v, hv, read⟩ := List.mem_filterMap.mp h
  split at read
  · cases read
    exact ⟨_, hv⟩
  · cases read

theorem shows_result (labels : HasLabels x) (hv : ∀ s, HasText x v s → NoEscape s.toList)
    (hs : ∀ search ∈ o.search, NoEscape search.text.toList) :
    Shows (result x (o.withColor true) v) (result x (o.withColor false) v) := by
  have single (c : Color) : Shows
      ((o.withColor true).paint c (x.schema.shown v).toList ++ ['\n'])
      ((o.withColor false).paint c (x.schema.shown v).toList ++ ['\n']) :=
    shows_message o c (noEscape_shown labels hv)
  have one : ∀ w ∈ [v], ∀ s, HasText x w s → NoEscape s.toList := by simpa using hv
  cases v with
  | null => exact single _
  | bool b => exact single _
  | int n => exact single _
  | long n => exact single _
  | text s => exact single _
  | timestamp t => exact single _
  | record r origin =>
    cases r with
    | commit c => exact shows_commits o (by simpa using fun s hs => hv s (.commit hs)) hs
    | file f => exact shows_files o (by simpa using fun s hs => hv s (.file hs))
    | diff d => exact shows_general o labels _ one
    | other r => exact shows_general o labels _ one
  | sequence element items origin =>
    have inner : ∀ w ∈ items, ∀ s, HasText x w s → NoEscape s.toList :=
      fun w hw s hs => hv s (.item hw hs)
    have of_commits := shows_commits o (fun c hc s hs => by
      obtain ⟨origin, mem⟩ := mem_of_mem_commitsOf hc
      exact inner _ mem s (.commit hs)) hs
    have of_files := shows_files o fun f hf s hs => by
      obtain ⟨origin, mem⟩ := mem_of_mem_filesOf hf
      exact inner _ mem s (.file hs)
    have none : Shows ((o.withColor true).paint muted "No results.".toList ++ ['\n'])
        ((o.withColor false).paint muted "No results.".toList ++ ['\n']) :=
      shows_message o muted (by decide)
    have rows := shows_general o labels element inner
    cases element with
    | record kind =>
      cases kind with
      | commit => exact of_commits
      | file => exact of_files
      | _ =>
        cases items with
        | nil => exact none
        | cons first rest => exact rows
    | _ =>
      cases items with
      | nil => exact none
      | cons first rest => exact rows

/-! ## Errors -/

/-- What stands behind the title of an error. -/
def errorText (e : QueryError) (query : String) : List Char :=
  ' ' :: e.message.toList ++ '\n' :: errorPointer e query

theorem toList_renderError (e : QueryError) (query : String) : (renderError o e query).toList =
    o.bold (categoryColor e.category) (e.category.title ++ ":").toList ++ errorText e query := by
  rw [renderError, String.toList_ofList, List.append_assoc]
  rfl

theorem unstyled_renderError (e : QueryError) (query : String) :
    unstyled (renderError o e query).toList =
      (e.category.title ++ ":").toList ++ unstyled (errorText e query) := by
  have title : NoEscape (e.category.title ++ ":").toList := by
    cases e.category <;> decide
  rw [toList_renderError, reads_bold o _ title]

theorem noEscape_errorText (e : QueryError) {query : String} (he : NoEscape e.message.toList)
    (hq : NoEscape query.toList) : NoEscape (errorText e query) :=
  (NoEscape.cons (by decide) he).append (.cons (by decide) (noEscape_errorPointer e hq))

/-! ## The law -/

/-- What is shown of a value with colours is, once the escape sequences are taken out and line
by line up to the blanks at its end, what is shown of it without colours. The texts of the
value and the text that is searched for start no escape sequence themselves. An error with
colours differs from one without in escape sequences alone. -/
theorem colors_add_nothing_but_escape_sequences (labels : HasLabels x) :
    (∀ (o : Options) (v : Value (Kind ε) (Record σ)),
      (∀ s, HasText x v s → NoEscape s.toList) →
      (∀ search ∈ o.search, NoEscape search.text.toList) →
      trimmedLines (unstyled (render x (o.withColor true) v).toList) =
        trimmedLines (render x (o.withColor false) v).toList) ∧
    ∀ (o : Options) (e : QueryError) (query : String),
      unstyled (renderError (o.withColor true) e query).toList =
          unstyled (renderError (o.withColor false) e query).toList ∧
        (NoEscape e.message.toList → NoEscape query.toList →
          unstyled (renderError (o.withColor true) e query).toList =
            (renderError (o.withColor false) e query).toList) := by
  refine ⟨fun o v hv hs => ?_, fun o e query => ⟨?_, fun he hq => ?_⟩⟩
  · rw [render, render, String.toList_ofList, String.toList_ofList]
    exact (shows_result o labels hv hs).trimmedLines_eq
  · rw [unstyled_renderError, unstyled_renderError]
  · rw [unstyled_renderError, toList_renderError,
      (reads_self (noEscape_errorText e he hq)).unstyled_eq]
    rfl

/-- A text with a blank at its end, and no text. -/
theorem a_list_of_texts_reads_without_colors :
    let x := Extension.nothing
    let o : Options := ⟨true, 20, 50, none⟩
    let v : Value (Kind Empty) (Record Empty) := .ofItems .text [.text "one ", .null]
    HasLabels x ∧ (∀ s, HasText x v s → NoEscape s.toList) ∧
      (∀ search ∈ o.search, NoEscape search.text.toList) ∧
      trimmedLines (unstyled (render x (o.withColor true) v).toList) =
        ["Value", "──────", "one", "(null)", "(2 rows)", ""].map String.toList := by
  intro x o v
  have labels : HasLabels x := ⟨nofun, nofun⟩
  have texts : ∀ s, HasText x v s → NoEscape s.toList := by
    intro s (h : HasText x (.sequence .text [.text "one ", .null] none) s)
    cases h with
    | member _ hm h => exact absurd h (not_hasText_member hm fun _ _ record => by cases record)
    | item hw h =>
      rcases List.mem_cons.mp hw with rfl | hw
      · cases h with
        | text => decide
        | member _ hm h => exact absurd h (not_hasText_member hm fun _ _ record => by cases record)
      · rw [List.mem_singleton.mp hw] at h
        exact absurd h not_hasText_null
  have search : ∀ search ∈ o.search, NoEscape search.text.toList := nofun
  refine ⟨labels, texts, search, ?_⟩
  rw [(colors_add_nothing_but_escape_sequences labels).1 o v texts search]
  decide +kernel

end CommitQuery.Screen
