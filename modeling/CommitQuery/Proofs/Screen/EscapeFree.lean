-- What results show of texts that start no escape sequence starts none either: numbers and
-- times, texts that are cut, joined or trimmed, and values in the cells of a table.
import CommitQuery.Proofs.Commit.Texts
import CommitQuery.Proofs.Screen.Painted
import CommitQuery.Proofs.Screen.Truncate
import CommitQuery.Proofs.Time.RoundTrip
import CommitQuery.Screen.Render

namespace CommitQuery.Screen

open CommitQuery.Text

/-! ## Numbers and times -/

theorem noEscape_of_digits {s : List Char} (h : ∀ c ∈ s, isAsciiDigit c = true) : NoEscape s :=
  fun start => absurd (h _ start) (by decide)

/-- An integer is written as a sign, if it has one, and digits. -/
theorem toList_toString_int (n : Int) : ∃ sign digits : List Char, NoEscape sign ∧ digits ≠ [] ∧
    (∀ c ∈ digits, isAsciiDigit c = true) ∧ (toString n).toList = sign ++ digits := by
  cases n with
  | ofNat k =>
    refine ⟨[], Nat.toDigits 10 k, by decide, Nat.toDigits_ne_nil,
      fun c hc => isAsciiDigit_of_mem_toDigits hc, ?_⟩
    show (toString k).toList = _
    simp
  | negSucc k =>
    refine ⟨['-'], Nat.toDigits 10 (k + 1), by decide, Nat.toDigits_ne_nil,
      fun c hc => isAsciiDigit_of_mem_toDigits hc, ?_⟩
    show ("-" ++ toString (k + 1)).toList = _
    simp

theorem noEscape_toString_int (n : Int) : NoEscape (toString n).toList := by
  obtain ⟨sign, digits, noEscape, -, all, written⟩ := toList_toString_int n
  rw [written]
  exact noEscape.append (noEscape_of_digits all)

theorem visible_of_last {s : List Char} (h : s ≠ []) (last : isBlank (s.getLast h) = false) :
    Visible s :=
  ⟨s.dropLast, s.getLast h, [], (List.dropLast_append_getLast h).symm, last, isFill_nil⟩

theorem visible_toString_int (n : Int) : Visible (toString n).toList := by
  obtain ⟨sign, digits, -, some_digit, all, written⟩ := toList_toString_int n
  rw [written]
  refine Visible.behind ?_ sign
  exact visible_of_last some_digit
    (isBlank_of_isAsciiDigit (all _ (List.getLast_mem some_digit)))

/-! ## Texts cut and joined -/

theorem noEscape_fitting (budget : Nat) {text : List Char} (h : NoEscape text) :
    NoEscape (fitting budget text) :=
  h.of_subset (fitting_isPrefix budget text).subset

theorem noEscape_truncate {text : List Char} (h : NoEscape text) (max : Nat) :
    NoEscape (truncate text max) := by
  unfold truncate
  split
  · exact h
  · exact (noEscape_fitting _ h).append (by decide)

theorem noEscape_padded (width n : Nat) : NoEscape (Timestamp.padded width n) :=
  noEscape_of_digits (Timestamp.forall_mem_padded width n)

theorem noEscape_yearText (year : Int) : NoEscape (Timestamp.yearText year) := by
  unfold Timestamp.yearText
  split
  · exact noEscape_padded _ _
  · refine NoEscape.cons ?_ (noEscape_padded _ _)
    split <;> decide

theorem noEscape_timestamp (t : Timestamp) : NoEscape t.shown.toList := by
  rw [Timestamp.shown, String.toList_ofList]
  have date : NoEscape (Timestamp.dateText t.date) :=
    (((noEscape_yearText _).append (.cons (by decide) (noEscape_padded _ _)))).append
      (.cons (by decide) (noEscape_padded _ _))
  exact (date.append (.cons (by decide) (noEscape_padded _ _))).append
    (.cons (by decide) (noEscape_padded _ _))

theorem noEscape_joinWith {separator : String} (hs : NoEscape separator.toList)
    {texts : List String} (h : ∀ s ∈ texts, NoEscape s.toList) :
    NoEscape (joinWith separator texts).toList := by
  intro start
  rcases mem_of_mem_joinWith start with start | ⟨s, mem, start⟩
  · exact hs start
  · exact h s mem start

theorem noEscape_of_mem_lines {s l : List Char} (h : NoEscape s) (hl : l ∈ lines s) :
    NoEscape l :=
  h.of_subset fun _ hc => mem_of_mem_lines hl hc

theorem noEscape_trim {s : String} (h : NoEscape s.toList) : NoEscape (trim s).toList := by
  rw [trim, String.toList_ofList]
  refine h.of_subset fun c hc => ?_
  have start : c ∈ trimStart s.toList := (List.rdropWhile_prefix isBlank _).subset hc
  exact (List.dropWhile_suffix isBlank).subset start

theorem noEscape_subject {c : Commit} (h : ∀ s ∈ c.texts, NoEscape s.toList) :
    NoEscape c.subject.toList := by
  have message : NoEscape c.message.toList := h _ (by simp [Commit.texts])
  refine noEscape_trim ?_
  rw [String.toList_ofList]
  cases first : (lines c.message.toList).head? with
  | none => exact List.not_mem_nil
  | some l => exact noEscape_of_mem_lines message (List.mem_of_mem_head? first)

theorem noEscape_shortSha {c : Commit} (h : ∀ s ∈ c.texts, NoEscape s.toList) :
    NoEscape c.shortSha.toList := by
  have sha : NoEscape c.sha.toList := h _ (by simp [Commit.texts])
  rw [Commit.shortSha, String.toList_ofList]
  exact sha.of_subset fun _ => List.mem_of_mem_take

theorem noEscape_shownPath {f : FileChange} (h : ∀ s ∈ f.texts, NoEscape s.toList) :
    NoEscape f.shownPath.toList := by
  have path : NoEscape f.path.toList := h _ (by simp [FileChange.texts])
  unfold FileChange.shownPath
  cases renamed : f.oldPath with
  | none => exact path
  | some old =>
    have source : NoEscape old.toList := h _ (by simp [FileChange.texts, renamed])
    simp only [String.toList_append]
    exact (source.append (by decide)).append path

theorem noEscape_errorPointer (e : QueryError) {query : String} (h : NoEscape query.toList) :
    NoEscape (errorPointer e query) := by
  cases e with
  | malformed bad =>
    have pointer : NoEscape (bad.pointer query).toList := by
      rw [Query.Malformed.pointer, String.toList_ofList]
      have line : NoEscape (Query.Malformed.shownLine query) :=
        h.of_subset fun _ hc => List.mem_of_mem_filter hc
      have spaces : NoEscape (List.replicate (bad.column query) ' ') :=
        fun start => by cases List.eq_of_mem_replicate start
      exact (line.append (.cons (by decide) spaces)).append (by decide)
    intro start
    obtain ⟨l, hl, hc⟩ := List.mem_flatMap.mp start
    have line := noEscape_of_mem_lines pointer hl
    exact ((NoEscape.append (s := [' ', ' ']) (by decide) line).append
      (t := ['\n']) (by decide)) hc
  | _ => exact List.not_mem_nil

/-! ## Values -/

/-- A name that can stand in a heading. -/
def IsLabel (name : String) : Prop := NoEscape name.toList ∧ '\n' ∉ name.toList

instance (name : String) : Decidable (IsLabel name) := inferInstanceAs (Decidable (_ ∧ _))

theorem IsLabel.append {a b : String} (ha : IsLabel a) (hb : IsLabel b) : IsLabel (a ++ b) := by
  unfold IsLabel
  rw [String.toList_append, List.mem_append, not_or]
  exact ⟨ha.1.append hb.1, ha.2, hb.2⟩

variable {ε σ : Type} {x : Extension ε σ}

/-- Records beside those of a repository, with members that are named by labels. The names of
their kinds stand in cells. -/
structure HasLabels (x : Extension ε σ) : Prop where
  kinds : ∀ e, NoEscape (x.nameOf e).toList
  members : ∀ e, ∀ m ∈ x.members e, IsLabel m.name

namespace HasLabels

theorem kindName (labels : HasLabels x) (kind : Kind ε) : NoEscape (x.kindName kind).toList := by
  cases kind with
  | commit => exact (by decide : NoEscape "CommitInfo".toList)
  | diff => exact (by decide : NoEscape "DiffData".toList)
  | file => exact (by decide : NoEscape "FileChange".toList)
  | other e => exact labels.kinds e

theorem member (labels : HasLabels x) {kind : Kind ε} {m : Member (Kind ε) (Record σ)}
    (hm : m ∈ x.schema.members kind) : IsLabel m.name := by
  -- The names of a repository's members are the same with whatever other records.
  have named := List.mem_map_of_mem (f := (·.name)) hm
  let alone := Extension.nothing.schema.members
  cases kind with
  | commit =>
    have all : ∀ name ∈ (alone .commit).map (·.name), IsLabel name := by decide
    exact all _ named
  | diff =>
    have all : ∀ name ∈ (alone .diff).map (·.name), IsLabel name := by decide
    exact all _ named
  | file =>
    have all : ∀ name ∈ (alone .file).map (·.name), IsLabel name := by decide
    exact all _ named
  | other e => exact labels.members e m hm

theorem columnsBelow (labels : HasLabels x) {lead : String} (hl : IsLabel lead)
    {path : List (Member (Kind ε) (Record σ))} {nesting : Nat} {kind : Kind ε}
    {c : Column (Kind ε) (Record σ)} (hc : c ∈ x.schema.columnsBelow lead path nesting kind) :
    IsLabel c.name := by
  induction nesting generalizing lead path kind with
  | zero =>
    rw [Schema.columnsBelow] at hc
    obtain ⟨m, hm, hc⟩ := List.mem_flatMap.mp hc
    split at hc
    · cases hc
    · rw [List.mem_singleton.mp hc]
      exact hl.append (labels.member hm)
  | succ nesting ih =>
    rw [Schema.columnsBelow] at hc
    obtain ⟨m, hm, hc⟩ := List.mem_flatMap.mp hc
    split at hc
    · exact ih ((hl.append (labels.member hm)).append (by decide)) hc
    · rw [List.mem_singleton.mp hc]
      exact hl.append (labels.member hm)

theorem columnsOf (labels : HasLabels x) {type : ValueType (Kind ε)}
    {c : Column (Kind ε) (Record σ)} (hc : c ∈ x.schema.columnsOf type) : IsLabel c.name := by
  cases type with
  | record kind => exact labels.columnsBelow (by decide) hc
  | _ =>
    rw [List.mem_singleton.mp hc]
    exact (by decide : IsLabel "Value")

end HasLabels

variable {v : Value (Kind ε) (Record σ)}

theorem noEscape_shown (labels : HasLabels x) (h : ∀ s, HasText x v s → NoEscape s.toList) :
    NoEscape (x.schema.shown v).toList := by
  cases v with
  | null => exact (by decide : NoEscape "(null)".toList)
  | bool b =>
    cases b with
    | true => exact (by decide : NoEscape "true".toList)
    | false => exact (by decide : NoEscape "false".toList)
  | int n => exact noEscape_toString_int _
  | long n => exact noEscape_toString_int _
  | text s => exact h s (.text s)
  | timestamp t => exact noEscape_timestamp t
  | record r origin =>
    simp only [Schema.shown, String.toList_append]
    exact (NoEscape.append (by decide) (labels.kindName _)).append (by decide)
  | sequence element items origin =>
    simp only [Schema.shown, String.toList_append]
    exact (NoEscape.append (by decide) (noEscape_toString _)).append (by decide)

theorem noEscape_cellText (labels : HasLabels x) (h : ∀ s, HasText x v s → NoEscape s.toList) :
    NoEscape (x.schema.cellText v).toList := by
  unfold Schema.cellText
  split
  · rename_i items origin
    refine noEscape_joinWith (by decide) fun s hs => ?_
    obtain ⟨item, hitem, text⟩ := List.mem_filterMap.mp hs
    cases item with
    | text t =>
      cases text
      exact h s (.item hitem (.text s))
    | _ => cases text
  · exact noEscape_shown labels h

end CommitQuery.Screen
