-- The columns of a table of records: one for each member that is reached through at most two
-- records and is none itself, in the order in which the kinds list their members. A cell has
-- what its column reaches from the row, and a column is as wide as the widest text in it.
import Mathlib.Data.List.Forall2
import Mathlib.Order.Bounds.Basic
import Mathlib.Order.MinMax
import CommitQuery.Result.Table

namespace CommitQuery

variable {κ ρ : Type}

/-! ## Cells -/

/-- What the members of a path give, one after the other. -/
def Value.through (v : Value κ ρ) (path : List (Member κ ρ)) : Value κ ρ :=
  path.foldl (fun w m => m.get w) v

theorem Value.follow_of_null {v : Value κ ρ} {path : List (Member κ ρ)}
    (h : ∃ i < path.length, (v.through (path.take i)).isNull = true) : v.follow path = .null := by
  induction path generalizing v with
  | nil =>
    obtain ⟨i, hi, -⟩ := h
    exact absurd hi (Nat.not_lt_zero i)
  | cons m more ih =>
    obtain ⟨i, hi, null⟩ := h
    rw [follow]
    cases i with
    | zero => exact if_pos null
    | succ i =>
      rw [ih ⟨i, Nat.lt_of_succ_lt_succ hi, null⟩, ite_self]

theorem Value.follow_of_not_null {v : Value κ ρ} {path : List (Member κ ρ)}
    (h : ∀ i < path.length, (v.through (path.take i)).isNull = false) :
    v.follow path = v.through path := by
  induction path generalizing v with
  | nil => rfl
  | cons m more ih =>
    have first : v.isNull = false := h 0 (Nat.succ_pos _)
    rw [follow, first, if_neg Bool.false_ne_true]
    exact ih fun i hi => h (i + 1) (Nat.succ_lt_succ hi)

namespace Schema

variable (S : Schema κ ρ)

/-! ## Columns -/

/-- Places that lead from records of a kind to a member that is no record. Each place counts
the members that its kind lists, and each but the last is that of a record. -/
inductive LeadsToCell : κ → List Nat → List (Member κ ρ) → Prop
  | last {kind : κ} {place : Nat} {m : Member κ ρ} (there : (S.members kind)[place]? = some m)
      (single : ∀ inner, m.type ≠ .record inner) : LeadsToCell kind [place] [m]
  | record {kind inner : κ} {place : Nat} {m : Member κ ρ} {places : List Nat}
      {path : List (Member κ ρ)} (there : (S.members kind)[place]? = some m)
      (nested : m.type = .record inner) (h : LeadsToCell inner places path) :
      LeadsToCell kind (place :: places) (m :: path)

/-- The places that a member leads to: its own if it is no record, else its own in front of
those below it. -/
def placesAt (below : κ → List (List Nat)) (m : Member κ ρ) (place : Nat) : List (List Nat) :=
  match m.type with
  | .record inner => (below inner).map (place :: ·)
  | _ => [[place]]

/-- The places, at most `depth` of them in a row, that lead from records of a kind to a cell. -/
def placesWithin : Nat → κ → List (List Nat)
  | 0, _ => []
  | depth + 1, kind => (S.members kind).zipIdx.flatMap fun numbered =>
    placesAt (placesWithin depth) numbered.1 numbered.2

/-- A column at some places, whose path and name go on with the members there. -/
def IsColumnAt (lead : String) (path : List (Member κ ρ)) (kind : κ) (places : List Nat)
    (c : Column κ ρ) : Prop :=
  ∃ more, S.LeadsToCell kind places more ∧ c.path = path ++ more ∧
    c.name = lead ++ Text.joinWith "." (more.map (·.name))

variable {S}

theorem LeadsToCell.path_ne_nil {kind : κ} {places : List Nat} {path : List (Member κ ρ)}
    (h : S.LeadsToCell kind places path) : path ≠ [] := by
  cases h <;> exact List.cons_ne_nil _ _

theorem placesAt_record {m : Member κ ρ} {inner : κ} (nested : m.type = .record inner)
    (below : κ → List (List Nat)) (place : Nat) :
    placesAt below m place = (below inner).map (place :: ·) := by
  rw [placesAt, nested]

theorem placesAt_single {m : Member κ ρ} (single : ∀ inner, m.type ≠ .record inner)
    (below : κ → List (List Nat)) (place : Nat) : placesAt below m place = [[place]] := by
  unfold placesAt
  split
  · rename_i inner nested
    exact absurd nested (single inner)
  · rfl

theorem record_or_single (m : Member κ ρ) :
    (∃ inner, m.type = .record inner) ∨ ∀ inner, m.type ≠ .record inner := by
  by_cases nested : ∃ inner, m.type = .record inner
  · exact .inl nested
  · exact .inr (not_exists.mp nested)

theorem mem_placesAt {below : κ → List (List Nat)} {m : Member κ ρ} {place : Nat}
    {places : List Nat} : places ∈ placesAt below m place ↔
      (∃ inner more, m.type = .record inner ∧ more ∈ below inner ∧ places = place :: more) ∨
        (∀ inner, m.type ≠ .record inner) ∧ places = [place] := by
  rcases record_or_single m with ⟨inner, nested⟩ | single
  · rw [placesAt_record nested]
    simp [nested, eq_comm]
  · have no_record : ¬ ∃ inner more, m.type = .record inner ∧ more ∈ below inner ∧
        places = place :: more := by
      rintro ⟨inner, -, nested, -⟩
      exact single inner nested
    rw [placesAt_single single, List.mem_singleton, or_iff_right no_record]
    exact ⟨fun here => ⟨single, here⟩, And.right⟩

theorem mem_placesWithin {depth : Nat} {kind : κ} {places : List Nat} :
    places ∈ S.placesWithin depth kind ↔
      places.length ≤ depth ∧ ∃ path, S.LeadsToCell kind places path := by
  induction depth generalizing kind places with
  | zero =>
    refine ⟨fun none => absurd none List.not_mem_nil, ?_⟩
    rintro ⟨short, path, leads⟩
    cases leads <;> exact absurd short (Nat.not_succ_le_zero _)
  | succ depth ih =>
    rw [placesWithin, List.mem_flatMap]
    constructor
    · rintro ⟨⟨m, place⟩, listed, at_member⟩
      have there := List.mem_zipIdx_iff_getElem?.mp listed
      rcases mem_placesAt.mp at_member with ⟨inner, more, nested, below, rfl⟩ | ⟨single, rfl⟩
      · obtain ⟨short, path, leads⟩ := ih.mp below
        exact ⟨Nat.succ_le_succ short, m :: path, .record there nested leads⟩
      · exact ⟨Nat.succ_pos _, [m], .last there single⟩
    · rintro ⟨short, path, leads⟩
      cases leads with
      | @last _ place m there single =>
        exact ⟨(m, place), List.mem_zipIdx_iff_getElem?.mpr there,
          mem_placesAt.mpr (.inr ⟨single, rfl⟩)⟩
      | @record _ inner place m more path there nested leads =>
        have below := ih.mpr ⟨Nat.le_of_succ_le_succ short, path, leads⟩
        exact ⟨(m, place), List.mem_zipIdx_iff_getElem?.mpr there,
          mem_placesAt.mpr (.inl ⟨inner, more, nested, below, rfl⟩)⟩

/-- The members of a kind are numbered from the first one on. -/
theorem pairwise_zipIdx {α : Type} (l : List α) : l.zipIdx.Pairwise fun a b => a.2 < b.2 := by
  rw [← List.pairwise_map (f := Prod.snd) (R := (· < ·)), List.zipIdx_map_snd]
  exact List.pairwise_lt_range'

/-- Places are listed depth first and each once, so they ascend. -/
theorem pairwise_placesWithin (depth : Nat) (kind : κ) :
    (S.placesWithin depth kind).Pairwise (· < ·) := by
  induction depth generalizing kind with
  | zero => exact .nil
  | succ depth ih =>
    rw [placesWithin, List.pairwise_flatMap]
    constructor
    · rintro ⟨m, place⟩ -
      rcases record_or_single m with ⟨inner, nested⟩ | single
      · rw [placesAt_record nested, List.pairwise_map]
        exact (ih inner).imp fun less => List.Lex.cons less
      · rw [placesAt_single single]
        exact List.pairwise_singleton _ _
    · refine (pairwise_zipIdx (S.members kind)).imp ?_
      rintro ⟨m, i⟩ ⟨n, j⟩ less p hp q hq
      have starts : ∀ {m : Member κ ρ} {place : Nat} {p : List Nat},
          p ∈ placesAt (S.placesWithin depth) m place → ∃ more, p = place :: more := by
        intro m place p hp
        rcases mem_placesAt.mp hp with ⟨-, more, -, -, rfl⟩ | ⟨-, rfl⟩
        · exact ⟨more, rfl⟩
        · exact ⟨[], rfl⟩
      obtain ⟨more, rfl⟩ := starts hp
      obtain ⟨others, rfl⟩ := starts hq
      exact List.Lex.rel less

/-- What lies below a record has the name of the record's member in front. -/
theorem IsColumnAt.record {lead : String} {path : List (Member κ ρ)} {kind inner : κ} {place : Nat}
    {m : Member κ ρ} (there : (S.members kind)[place]? = some m) (nested : m.type = .record inner)
    {places : List Nat} {c : Column κ ρ}
    (h : S.IsColumnAt (lead ++ m.name ++ ".") (path ++ [m]) inner places c) :
    S.IsColumnAt lead path kind (place :: places) c := by
  obtain ⟨more, leads, hpath, hname⟩ := h
  refine ⟨m :: more, .record there nested leads, ?_, ?_⟩
  · rw [hpath, List.append_assoc]
    rfl
  · obtain ⟨next, others, rfl⟩ := List.exists_cons_of_ne_nil leads.path_ne_nil
    rw [hname]
    simp [Text.joinWith, String.append_assoc]

theorem IsColumnAt.last {lead : String} {path : List (Member κ ρ)} {kind : κ} {place : Nat}
    {m : Member κ ρ} (there : (S.members kind)[place]? = some m)
    (single : ∀ inner, m.type ≠ .record inner) :
    S.IsColumnAt lead path kind [place] ⟨lead ++ m.name, path ++ [m]⟩ :=
  ⟨[m], .last there single, rfl, rfl⟩

/-- The columns that a member adds stand at its places. -/
theorem forall₂_flatMap_members {R : List Nat → Column κ ρ → Prop} {members : List (Member κ ρ)}
    {places : Member κ ρ → Nat → List (List Nat)} {columns : Member κ ρ → List (Column κ ρ)}
    (h : ∀ m place, members[place]? = some m → List.Forall₂ R (places m place) (columns m)) :
    List.Forall₂ R (members.zipIdx.flatMap fun numbered => places numbered.1 numbered.2)
      (members.flatMap columns) := by
  have same : members.flatMap columns =
      members.zipIdx.flatMap fun numbered => columns numbered.1 := by
    rw [← List.flatMap_map Prod.fst columns, List.zipIdx_map_fst]
  rw [same]
  have numbered : List.Forall₂ (fun a b => a = b ∧ members[a.2]? = some a.1) members.zipIdx
      members.zipIdx := by
    rw [List.forall₂_same]
    exact fun a ha => ⟨rfl, List.mem_zipIdx_iff_getElem?.mp ha⟩
  refine List.rel_flatMap numbered ?_
  rintro ⟨m, place⟩ _ ⟨rfl, there⟩
  exact h m place there

/-- A member that is no record has one column, at its own place. -/
theorem forall₂_single {lead : String} {path : List (Member κ ρ)} {kind : κ} {place : Nat}
    {m : Member κ ρ} (there : (S.members kind)[place]? = some m)
    (single : ∀ inner, m.type ≠ .record inner) (below : κ → List (Column κ ρ)) :
    List.Forall₂ (S.IsColumnAt lead path kind) [[place]]
      (match m.type with
        | .record inner => below inner
        | _ => [⟨lead ++ m.name, path ++ [m]⟩]) := by
  split
  · rename_i inner nested
    exact absurd nested (single inner)
  · exact .cons (IsColumnAt.last there single) .nil

theorem forall₂_columnsBelow (lead : String) (path : List (Member κ ρ)) (nesting : Nat) (kind : κ) :
    List.Forall₂ (S.IsColumnAt lead path kind) (S.placesWithin (nesting + 1) kind)
      (S.columnsBelow lead path nesting kind) := by
  induction nesting generalizing lead path kind with
  | zero =>
    rw [placesWithin, columnsBelow]
    refine forall₂_flatMap_members fun m place there => ?_
    rcases record_or_single m with ⟨inner, nested⟩ | single
    · rw [placesAt_record nested, nested]
      exact .nil
    · rw [placesAt_single single]
      exact forall₂_single there single _
  | succ nesting ih =>
    rw [placesWithin, columnsBelow]
    refine forall₂_flatMap_members fun m place there => ?_
    rcases record_or_single m with ⟨inner, nested⟩ | single
    · rw [placesAt_record nested, nested, List.forall₂_map_left_iff]
      exact (ih _ _ inner).imp fun _ _ column => column.record there nested
    · rw [placesAt_single single]
      exact forall₂_single there single _

end Schema

/-! ## Widths -/

theorem isGreatest_foldl_max {α : Type} (f : α → Nat) (start : Nat) (items : List α) :
    IsGreatest {n | n = start ∨ ∃ a ∈ items, n = f a}
      (items.foldl (fun w a => max w (f a)) start) := by
  induction items generalizing start with
  | nil => exact ⟨.inl rfl, by rintro n (rfl | ⟨a, none, -⟩) <;> simp at *⟩
  | cons a rest ih =>
    obtain ⟨member, upper⟩ := ih (max start (f a))
    rw [List.foldl_cons]
    constructor
    · rcases member with first | ⟨b, hb, same⟩
      · rcases max_choice start (f a) with left | right
        · exact .inl (first.trans left)
        · exact .inr ⟨a, List.mem_cons_self, first.trans right⟩
      · exact .inr ⟨b, List.mem_cons_of_mem _ hb, same⟩
    · rintro n (rfl | ⟨b, hb, rfl⟩)
      · exact (le_max_left n (f a)).trans (upper (.inl rfl))
      · rcases List.mem_cons.mp hb with rfl | hb
        · exact (le_max_right start (f b)).trans (upper (.inl rfl))
        · exact upper (.inr ⟨b, hb, rfl⟩)

namespace Table

variable (S : Schema κ ρ) (t : Table κ ρ)

theorem length_widths : (t.widths S).length = t.columns.length := by
  rw [widths, List.length_map, List.length_zipIdx]

/-- A column is as wide as its name or the widest text of a cell below it. -/
theorem isGreatest_widths {j : Nat} {c : Column κ ρ} (there : t.columns[j]? = some c) :
    ∃ w, (t.widths S)[j]? = some w ∧
      IsGreatest {n | n = Text.width c.name ∨
        ∃ row ∈ t.rows, ∃ cell, row[j]? = some cell ∧ n = Text.width (S.cellText cell)} w := by
  have cells : {n | n = Text.width c.name ∨
      ∃ row ∈ t.rows, ∃ cell, row[j]? = some cell ∧ n = Text.width (S.cellText cell)} =
        {n | n = Text.width c.name ∨
          ∃ cell ∈ t.rows.filterMap (·[j]?), n = Text.width (S.cellText cell)} := by
    ext n
    simp only [Set.mem_ofPred_eq, List.mem_filterMap]
    constructor
    · rintro (name | ⟨row, hrow, cell, here, same⟩)
      · exact .inl name
      · exact .inr ⟨cell, ⟨row, hrow, here⟩, same⟩
    · rintro (name | ⟨cell, ⟨row, hrow, here⟩, same⟩)
      · exact .inl name
      · exact .inr ⟨row, hrow, cell, here, same⟩
  refine ⟨columnWidth S c.name (t.rows.filterMap (·[j]?)), ?_, ?_⟩
  · rw [widths, List.getElem?_map, List.getElem?_zipIdx, there]
    simp
  · rw [cells]
    exact isGreatest_foldl_max (fun cell => Text.width (S.cellText cell)) _ _

end Table

/-! ## The law -/

namespace Schema

variable (S : Schema κ ρ)

/-- What a cell has of a row: Null if the row is Null, or some member on the path before the
last one gives Null, and else what the members give one after the other. -/
def IsReached (row : Value κ ρ) (path : List (Member κ ρ)) (cell : Value κ ρ) : Prop :=
  ((∃ i < path.length, (row.through (path.take i)).isNull = true) → cell = .null) ∧
    ((∀ i < path.length, (row.through (path.take i)).isNull = false) → cell = row.through path)

/-- The table of records of a kind, in which kinds may refer to each other in any way. Its
columns are the members that are no records and are reached through at most two that are, each
once and depth first: their places ascend. A column has the names of the members on its path,
with dots between them. Each row has a cell for each column, and a column is as wide as its
name or the widest text of its cells. -/
theorem a_table_of_records_has_a_column_for_each_member_in_reach (kind : κ)
    (rows : List (Value κ ρ)) :
    let t := S.tableOf (.record kind) rows
    (∀ origin, S.tabulate (.sequence (.record kind) rows origin) = t) ∧
      (∀ r origin, S.kindOf r = kind → rows = [.record r origin] →
        S.tabulate (.record r origin) = t) ∧
      (∃ columns : List (List Nat), columns.Pairwise (· < ·) ∧
        (∀ places, places ∈ columns ↔
          places.length ≤ 3 ∧ ∃ path, S.LeadsToCell kind places path) ∧
        List.Forall₂ (fun places c => S.LeadsToCell kind places c.path ∧
          c.name = Text.joinWith "." (c.path.map (·.name))) columns t.columns) ∧
      List.Forall₂ (fun row cells => List.Forall₂ (fun c cell => IsReached row c.path cell)
        t.columns cells) rows t.rows ∧
      (t.widths S).length = t.columns.length ∧
      ∀ (j : Nat) (c : Column κ ρ), t.columns[j]? = some c → ∃ w, (t.widths S)[j]? = some w ∧
        IsGreatest {n | n = Text.width c.name ∨
          ∃ row ∈ t.rows, ∃ cell, row[j]? = some cell ∧ n = Text.width (S.cellText cell)} w := by
  intro t
  refine ⟨fun _ => rfl, ?_, ?_, ?_, t.length_widths S, fun j c => t.isGreatest_widths S⟩
  · rintro r origin rfl rfl
    rfl
  · refine ⟨S.placesWithin 3 kind, pairwise_placesWithin 3 kind, fun _ => mem_placesWithin, ?_⟩
    refine (forall₂_columnsBelow "" [] maxNesting kind).imp ?_
    rintro places c ⟨path, leads, hpath, hname⟩
    rw [List.nil_append] at hpath
    rw [hpath, hname, String.empty_append]
    exact ⟨leads, rfl⟩
  · show List.Forall₂ _ rows (rows.map _)
    rw [List.forall₂_map_right_iff, List.forall₂_same]
    intro row _
    show List.Forall₂ _ t.columns (t.columns.map _)
    rw [List.forall₂_map_right_iff, List.forall₂_same]
    exact fun c _ => ⟨Value.follow_of_null, Value.follow_of_not_null⟩

/-- Records of one kind that lead to each other without end. -/
example :
    let name : Member Unit Unit := ⟨"Name", .text, fun _ => .text "a"⟩
    let next : Member Unit Unit := ⟨"Next", .record (), id⟩
    let S : Schema Unit Unit := ⟨id, fun _ => "Node", fun _ => [next, name], fun _ => []⟩
    (S.columnsOf (.record ())).map (·.name) = ["Next.Next.Name", "Next.Name", "Name"] := by
  decide +kernel

end Schema

end CommitQuery
