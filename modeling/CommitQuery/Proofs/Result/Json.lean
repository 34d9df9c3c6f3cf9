-- A value has JSON if it ends on every path of members and items, and only then. Every value
-- that a repository alone gives does.
import Mathlib.Data.List.Induction
import CommitQuery.Proofs.Commit.Honest
import CommitQuery.Result.Structured

namespace CommitQuery

/-! ## Objects -/

namespace Json

theorem put_of_not_mem {name : String} {fields : List (String × Json)}
    (h : name ∉ fields.map (·.1)) (value : Json) :
    put name value fields = fields ++ [(name, value)] := by
  induction fields with
  | nil => rfl
  | cons field rest ih =>
    rw [List.map_cons, List.mem_cons, not_or] at h
    rw [put, if_neg (Ne.symm h.1), ih h.2]
    rfl

/-- Fields of different names make the object of just these fields. -/
theorem ofFields_of_nodup {fields : List (String × Json)} (h : (fields.map (·.1)).Nodup) :
    ofFields fields = .object fields := by
  refine congrArg Json.object ?_
  induction fields using List.reverseRecOn with
  | nil => rfl
  | append_singleton fields field ih =>
    rw [List.map_append, List.nodup_append] at h
    have absent : field.1 ∉ fields.map (·.1) :=
      fun mem => h.2.2 field.1 mem field.1 (List.mem_singleton_self _) rfl
    rw [List.foldl_append, ih h.1]
    exact put_of_not_mem absent field.2

theorem field?_of_mem {fields : List (String × Json)} (h : (fields.map (·.1)).Nodup)
    {name : String} {value : Json} (mem : (name, value) ∈ fields) :
    field? name fields = some value := by
  induction fields with
  | nil => cases mem
  | cons field rest ih =>
    obtain ⟨key, first⟩ := field
    rw [List.map_cons, List.nodup_cons] at h
    rw [field?]
    rcases List.mem_cons.mp mem with same | mem
    · cases same
      rw [if_pos rfl]
    · have other : key ≠ name := by
        rintro rfl
        exact h.1 (List.mem_map_of_mem (f := (·.1)) mem)
      rw [if_neg other, ih h.2 mem]

end Json

/-! ## Values that end -/

namespace Schema

variable {κ ρ : Type} (S : Schema κ ρ)

/-- A value with nothing inside it. -/
def isSingle : Value κ ρ → Bool
  | .record _ _ | .sequence _ _ _ => false
  | _ => true

/-- A value that ends on every path of members and items. -/
inductive Finite : Value κ ρ → Prop
  | single {v : Value κ ρ} (h : isSingle v = true) : Finite v
  | record {r : ρ} {origin : Option Nat}
      (h : ∀ m ∈ S.members (S.kindOf r), Finite (m.get (.record r origin))) :
      Finite (.record r origin)
  | sequence {element : ValueType κ} {items : List (Value κ ρ)} {origin : Option Nat}
      (h : ∀ v ∈ items, Finite v) : Finite (.sequence element items origin)

/-- The JSON of a value. -/
def HasJson (v : Value κ ρ) (j : Json) : Prop := S.toJson? v = some j

variable {S}

theorem HasJson.unique {v : Value κ ρ} {i j : Json} (hi : S.HasJson v i) (hj : S.HasJson v j) :
    i = j := Option.some.inj (hi.symm.trans hj)

theorem HasJson.jsonText?_eq {v : Value κ ρ} {j : Json} (h : S.HasJson v j) :
    S.jsonText? v = some j.toText := congrArg (Option.map Json.toText) h

theorem hasJson_null : S.HasJson .null .null := by rw [HasJson, toJson?]

theorem hasJson_single {v : Value κ ρ} (h : isSingle v = true) : ∃ j, S.HasJson v j := by
  unfold HasJson
  cases v with
  | record r origin => cases h
  | sequence element items origin => cases h
  | _ => rw [toJson?]; exact ⟨_, rfl⟩

theorem hasJson_sequence {element : ValueType κ} {items : List (Value κ ρ)} {js : List Json}
    (h : List.Forall₂ S.HasJson items js) (origin : Option Nat) :
    S.HasJson (.sequence element items origin) (.array js) := by
  have all : items.mapM S.toJson? = some js := mapM_eq_some.mpr h
  rw [HasJson, toJson?, all]
  rfl

/-- A field that holds what a member gives. -/
def HasField (S : Schema κ ρ) (v : Value κ ρ) (m : Member κ ρ) (field : String × Json) : Prop :=
  field.1 = m.name ∧ S.HasJson (m.get v) field.2

/-- The JSON of a record has a field for each member. -/
theorem hasJson_record {r : ρ} {origin : Option Nat} {fields : List (String × Json)}
    (h : List.Forall₂ (S.HasField (.record r origin)) (S.members (S.kindOf r)) fields) :
    S.HasJson (.record r origin) (Json.ofFields fields) := by
  have all : (S.members (S.kindOf r)).mapM (fun m => do
      return (m.name, ← S.toJson? (m.get (.record r origin)))) = some fields := by
    refine mapM_eq_some.mpr (h.imp ?_)
    rintro m ⟨name, j⟩ ⟨rfl, json⟩
    rw [HasJson] at json
    rw [json]
    rfl
  rw [HasJson, toJson?, all]
  rfl

theorem Finite.members {r : ρ} {origin : Option Nat} (h : S.Finite (.record r origin)) :
    ∀ m ∈ S.members (S.kindOf r), S.Finite (m.get (.record r origin)) := by
  cases h with
  | single single => cases single
  | record h => exact h

theorem exists_fields {v : Value κ ρ} {ms : List (Member κ ρ)}
    (h : ∀ m ∈ ms, ∃ j, S.HasJson (m.get v) j) :
    ∃ fields, List.Forall₂ (S.HasField v) ms fields := by
  apply exists_images
  intro m hm
  obtain ⟨j, json⟩ := h m hm
  exact ⟨(m.name, j), rfl, json⟩

theorem Finite.hasJson {v : Value κ ρ} (h : S.Finite v) : ∃ j, S.HasJson v j := by
  induction h with
  | single single => exact hasJson_single single
  | @record r origin _ ih =>
    obtain ⟨fields, all⟩ := exists_fields ih
    exact ⟨_, hasJson_record all⟩
  | @sequence element items origin _ ih =>
    obtain ⟨js, all⟩ := exists_images ih
    exact ⟨_, hasJson_sequence all origin⟩

/-- A value that has JSON ends, since what was written of it on the way did. -/
theorem HasJson.finite {v : Value κ ρ} {j : Json} (h : S.HasJson v j) : S.Finite v := by
  refine toJson?.partial_correctness S (fun v _ => S.Finite v) ?_ v j h
  intro written ih v j h
  cases v with
  | record r origin =>
    obtain ⟨fields, all, -⟩ := Option.bind_eq_some_iff.mp h
    refine .record fun m hm => ?_
    obtain ⟨field, -, step⟩ := image_of_mem (mapM_eq_some.mp all) hm
    obtain ⟨i, hi, -⟩ := Option.bind_eq_some_iff.mp step
    exact ih _ i hi
  | sequence element items origin =>
    obtain ⟨js, all, -⟩ := Option.bind_eq_some_iff.mp h
    refine .sequence fun item hitem => ?_
    obtain ⟨i, -, hi⟩ := image_of_mem (mapM_eq_some.mp all) hitem
    exact ih _ i hi
  | _ => exact .single rfl

/-- The values that have JSON are those that end. -/
theorem isSome_toJson?_iff {v : Value κ ρ} : (S.toJson? v).isSome = true ↔ S.Finite v := by
  rw [Option.isSome_iff_exists]
  exact ⟨fun ⟨_, h⟩ => HasJson.finite h, Finite.hasJson⟩

end Schema

/-! ## The JSON of a value of a repository -/

section Finite

open Schema

variable {ε σ : Type} (x : Extension ε σ)

theorem finite_ofTexts (texts : List String) : x.schema.Finite (.ofTexts texts) := by
  refine .sequence ?_
  intro v hv
  obtain ⟨s, -, rfl⟩ := List.mem_map.mp hv
  exact .single rfl

theorem finite_ofText? (s : Option String) : x.schema.Finite (.ofText? s) := by
  cases s <;> exact .single rfl

theorem finite_file (f : FileChange) (origin : Option Nat) :
    x.schema.Finite (.record (.file f) origin) := by
  refine .record ?_
  intro m hm
  simp only [Extension.schema, Extension.kind, Extension.kindMembers, Records.fileMembers,
    List.mem_cons, List.not_mem_nil, or_false] at hm
  rcases hm with rfl | rfl | rfl | rfl | rfl | rfl | rfl | rfl
  · exact .single rfl
  · exact finite_ofText? x f.oldPath
  · exact .single rfl
  · exact .single rfl
  · exact .single rfl
  · exact .single rfl
  · exact finite_ofTexts x f.addedLines
  · exact finite_ofTexts x f.deletedLines

theorem finite_diff (d : Diff) (origin : Option Nat) :
    x.schema.Finite (.record (.diff d) origin) := by
  refine .record ?_
  intro m hm
  simp only [Extension.schema, Extension.kind, Extension.kindMembers, Records.diffMembers,
    List.mem_cons, List.not_mem_nil, or_false] at hm
  rcases hm with rfl | rfl | rfl | rfl
  · refine .sequence ?_
    intro v hv
    obtain ⟨f, -, rfl⟩ := List.mem_map.mp hv
    exact finite_file x f none
  all_goals exact .single rfl

theorem finite_commit (c : Commit) (origin : Option Nat) :
    x.schema.Finite (.record (.commit c) origin) := by
  refine .record ?_
  intro m hm
  simp only [Extension.schema, Extension.kind, Extension.kindMembers, Records.commitMembers,
    List.mem_cons, List.not_mem_nil, or_false] at hm
  rcases hm with rfl | rfl | rfl | rfl | rfl | rfl | rfl | rfl | rfl | rfl
  on_goal 10 => exact finite_diff x c.diff none
  all_goals exact .single rfl

/-- No record of a repository leads back to its own kind. -/
theorem finite_nothing : ∀ v : Value (Kind Empty) (Record Empty), Extension.nothing.schema.Finite v
  | .record (.commit c) origin => finite_commit _ c origin
  | .record (.diff d) origin => finite_diff _ d origin
  | .record (.file f) origin => finite_file _ f origin
  | .record (.other r) _ => r.elim
  | .sequence _ items _ => .sequence fun v _ => finite_nothing v
  | .null | .bool _ | .int _ | .long _ | .text _ | .timestamp _ => .single rfl

end Finite

end CommitQuery
