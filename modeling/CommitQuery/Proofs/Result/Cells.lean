-- The table of a result and its JSON tell the same: what a column shows of a row stands
-- in the JSON of that row, under the names of the members that lead to the column.
import CommitQuery.Proofs.Result.Json
import CommitQuery.Result.Table

namespace CommitQuery

/-- What is reached from a value by following keys. From null every key leads to null. -/
def Json.at? : Json → List String → Option Json
  | j, [] => some j
  | .null, _ :: _ => some .null
  | .object fields, key :: more => (field? key fields).bind (at? · more)
  | _, _ :: _ => none

namespace Schema

variable {κ ρ : Type} (S : Schema κ ρ)

/-! ## The path of a column -/

/-- The members that lead from a record of some kind, through a record each, to a last one. -/
inductive Leads : κ → List (Member κ ρ) → Prop
  | last {kind : κ} {m : Member κ ρ} (hm : m ∈ S.members kind) : Leads kind [m]
  | through {kind inner : κ} {m : Member κ ρ} {more : List (Member κ ρ)}
      (hm : m ∈ S.members kind) (nested : m.type = .record inner) (h : Leads inner more) :
      Leads kind (m :: more)

/-- Members that keep to their types, of which no two of one kind share a name. -/
structure Tidy : Prop where
  typed : ∀ kind, ∀ m ∈ S.members kind, ∀ v, S.typeOf v = .record kind → S.Admits m.type (m.get v)
  distinct : ∀ kind, ((S.members kind).map (·.name)).Nodup

variable {S}

theorem leads_of_mem_columnsBelow {lead : String} {path : List (Member κ ρ)} {nesting : Nat}
    {kind : κ} {c : Column κ ρ} (h : c ∈ S.columnsBelow lead path nesting kind) :
    ∃ more, c.path = path ++ more ∧ S.Leads kind more := by
  induction nesting generalizing lead path kind with
  | zero =>
    rw [columnsBelow] at h
    obtain ⟨m, hm, hc⟩ := List.mem_flatMap.mp h
    split at hc
    · cases hc
    · rw [List.mem_singleton] at hc
      subst hc
      exact ⟨[m], rfl, .last hm⟩
  | succ nesting ih =>
    rw [columnsBelow] at h
    obtain ⟨m, hm, hc⟩ := List.mem_flatMap.mp h
    split at hc
    · rename_i inner nested
      obtain ⟨more, hpath, leads⟩ := ih hc
      refine ⟨m :: more, ?_, .through hm nested leads⟩
      rw [hpath, List.append_assoc, List.singleton_append]
    · rw [List.mem_singleton] at hc
      subst hc
      exact ⟨[m], rfl, .last hm⟩

/-- A member of a record is a field of its JSON. -/
theorem HasJson.member (tidy : S.Tidy) {r : ρ} {origin : Option Nat} {j : Json}
    (finite : S.Finite (.record r origin)) (h : S.HasJson (.record r origin) j)
    {m : Member κ ρ} (hm : m ∈ S.members (S.kindOf r)) :
    ∃ t, S.HasJson (m.get (.record r origin)) t ∧ ∀ more, j.at? (m.name :: more) = t.at? more := by
  obtain ⟨fields, all⟩ := exists_fields fun m hm => (finite.members m hm).hasJson
  have names : fields.map (·.1) = (S.members (S.kindOf r)).map (·.name) := by
    rw [← List.forall₂_eq_eq_eq, List.forall₂_map_left_iff, List.forall₂_map_right_iff]
    exact List.Forall₂.flip (all.imp fun _ _ both => both.1)
  have nodup : (fields.map (·.1)).Nodup := names ▸ tidy.distinct _
  obtain ⟨⟨name, t⟩, mem, rfl, json⟩ := image_of_mem all hm
  refine ⟨t, json, ?_⟩
  intro more
  rw [h.unique (hasJson_record all), Json.ofFields_of_nodup nodup, Json.at?,
    Json.field?_of_mem nodup mem]
  rfl

theorem exists_record {v : Value κ ρ} {kind : κ} (h : S.typeOf v = .record kind) :
    ∃ r origin, v = .record r origin ∧ S.kindOf r = kind := by
  cases v with
  | record r origin => exact ⟨r, origin, rfl, ValueType.record.inj h⟩
  | _ => cases h

/-- What a path shows of a value stands in the value's JSON under the names of the path. -/
theorem Leads.hasJson_follow (tidy : S.Tidy) {kind : κ} {path : List (Member κ ρ)}
    (leads : S.Leads kind path) {v : Value κ ρ} {j : Json} (admits : S.Admits (.record kind) v)
    (finite : S.Finite v) (h : S.HasJson v j) :
    ∃ t, S.HasJson (v.follow path) t ∧ j.at? (path.map (·.name)) = some t := by
  induction leads generalizing v j with
  | last hm =>
    rcases admits with rfl | type
    · rw [h.unique hasJson_null]
      exact ⟨.null, hasJson_null, rfl⟩
    · obtain ⟨r, origin, rfl, rfl⟩ := exists_record type
      obtain ⟨t, json, step⟩ := h.member tidy finite hm
      exact ⟨t, json, step []⟩
  | @through kind inner m more hm nested _ ih =>
    rcases admits with rfl | type
    · rw [h.unique hasJson_null]
      exact ⟨.null, hasJson_null, rfl⟩
    · obtain ⟨r, origin, rfl, rfl⟩ := exists_record type
      obtain ⟨t, json, step⟩ := h.member tidy finite hm
      have below := tidy.typed _ m hm (.record r origin) rfl
      rw [nested] at below
      obtain ⟨u, there, reached⟩ := ih below (finite.members m hm) json
      exact ⟨u, there, (step _).trans reached⟩

/-! ## The law -/

variable (S)

/-- A value that is tabulated by records of some kind: a sequence of them, some of which
may be Null, or a single one. -/
inductive Records : Value κ ρ → κ → List (Value κ ρ) → Prop
  | sequence {kind : κ} {items : List (Value κ ρ)} {origin : Option Nat}
      (h : ∀ v ∈ items, S.Admits (.record kind) v) :
      Records (.sequence (.record kind) items origin) kind items
  | single (r : ρ) (origin : Option Nat) :
      Records (.record r origin) (S.kindOf r) [.record r origin]

/-- A row shows of a value what stands in the value's JSON: each cell has the JSON that is
reached there by the names of its column's path. -/
def Tells (columns : List (Column κ ρ)) (row : List (Value κ ρ)) (v : Value κ ρ) : Prop :=
  ∃ j, S.HasJson v j ∧ List.Forall₂ (fun cell column =>
    ∃ t, S.HasJson cell t ∧ j.at? (column.path.map (·.name)) = some t) row columns

variable {S}

theorem tells_row (tidy : S.Tidy) {kind : κ} {v : Value κ ρ}
    (admits : S.Admits (.record kind) v) (finite : S.Finite v) :
    S.Tells (S.columnsOf (.record kind)) ((S.columnsOf (.record kind)).map fun c => v.follow c.path)
      v := by
  obtain ⟨j, json⟩ := finite.hasJson
  refine ⟨j, json, ?_⟩
  rw [List.forall₂_map_left_iff, List.forall₂_same]
  intro c hc
  obtain ⟨path, same, leads⟩ := leads_of_mem_columnsBelow hc
  rw [List.nil_append] at same
  rw [same]
  exact leads.hasJson_follow tidy admits finite json

/-- The rows of a table are those of the records of the value, one for each and in order, a
Null for a record included. Every cell has the JSON that is reached in the JSON of its row by
the names of its column's path, where null leads to null. A record that leads from member to
member without end has no JSON at all. -/
theorem a_row_tells_what_its_json_tells (tidy : S.Tidy) {v : Value κ ρ} {kind : κ}
    {items : List (Value κ ρ)} (records : S.Records v kind items) :
    List.Forall₂ (fun row item => S.Finite item → S.Tells (S.tabulate v).columns row item)
      (S.tabulate v).rows items := by
  have rows : ∀ items : List (Value κ ρ), (∀ item ∈ items, S.Admits (.record kind) item) →
      List.Forall₂ (fun row item => S.Finite item → S.Tells (S.columnsOf (.record kind)) row item)
        (S.tableOf (.record kind) items).rows items := by
    intro items admits
    show List.Forall₂ _ (items.map _) items
    rw [List.forall₂_map_left_iff, List.forall₂_same]
    intro item hitem finite
    exact tells_row tidy (admits item hitem) finite
  cases records with
  | sequence admits => exact rows items admits
  | single r origin => exact rows _ (by simp [Admits, typeOf])

/-- Two commits and no commit between them. -/
theorem commits_tell_what_their_json_tells :
    let S := Extension.nothing.schema
    let when : Timestamp := ⟨⟨2025, 1, 2⟩, 3, 4, 5, 0, 0⟩
    let commit (sha : String) (files : List FileChange) : Value (Kind Empty) (Record Empty) :=
      .ofRecord (.commit ⟨sha, "Subject", "Bob", "", when, "", "", when, ⟨files⟩⟩)
    let items := [commit "a" [], .null, commit "b" [⟨"x", none, .added, true, []⟩]]
    let v := .ofItems (.record .commit) items
    S.Tidy ∧ S.Records v .commit items ∧ (∀ item ∈ items, S.Finite item) ∧
      List.Forall₂ (fun row item => S.Finite item → S.Tells (S.tabulate v).columns row item)
        (S.tabulate v).rows items := by
  intro S when commit items v
  have tidy : S.Tidy := by
    refine ⟨fun kind m hm v hv => (honest_schema_nothing.get kind m hm v hv).1, ?_⟩
    intro kind
    cases kind with
    | other e => cases e
    | _ => decide
  have records : S.Records v .commit items := by
    apply Records.sequence
    simp only [items, List.forall_mem_cons]
    exact ⟨.inr rfl, .inl rfl, .inr rfl, by simp⟩
  have finite : ∀ item ∈ items, S.Finite item := fun item _ => finite_nothing item
  exact ⟨tidy, records, finite, a_row_tells_what_its_json_tells tidy records⟩

end Schema

end CommitQuery
