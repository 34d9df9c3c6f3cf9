-- Values with no Null in them, and schemas that answer them with such values. Texts,
-- timestamps and sequences do so in every schema.
import CommitQuery.Proofs.Value.Honest

namespace CommitQuery.Schema

variable {κ ρ : Type}

/-! ## Values -/

section Values

variable (S : Schema κ ρ)

/-- A value of a type that is not Null, and neither is any item in it, at any nesting. -/
inductive Solid : ValueType κ → Value κ ρ → Prop
  | single {type : ValueType κ} {v : Value κ ρ} (ht : S.typeOf v = type)
      (h : v.items? = none) (there : v.isNull = false) : Solid type v
  | sequence {element : ValueType κ} {items : List (Value κ ρ)} {origin : Option Nat}
      (h : ∀ v ∈ items, Solid element v) :
      Solid (.sequence element) (.sequence element items origin)

/-- A schema whose records answer solid values with solid values: a member gives one, if
it has none of some names, and a method takes values only and never refuses them. -/
structure Answers (but : List String) : Prop where
  get : ∀ kind, ∀ m ∈ S.members kind, m.name ∉ but → ∀ v, S.Solid (.record kind) v →
    S.Solid m.type (m.get v)
  values : ∀ kind, ∀ m ∈ S.methods kind, ∀ type ∈ m.parameters, ∀ a r, type ≠ .function a r
  call : ∀ kind, ∀ m ∈ S.methods kind, ∀ v arguments, S.Solid (.record kind) v →
    List.Forall₂ S.Solid m.parameters arguments → ∃ r, m.call v arguments = .ok r ∧
      S.Solid m.returns r

end Values

variable {S : Schema κ ρ} {type : ValueType κ} {v : Value κ ρ}

theorem Solid.typeOf (h : S.Solid type v) : S.typeOf v = type := by
  cases h with
  | single ht => exact ht
  | sequence => rfl

theorem Solid.notNull (h : S.Solid type v) : v.isNull = false := by
  cases h with
  | single _ _ there => exact there
  | sequence => rfl

theorem not_solid_null (v : Value κ ρ) : ¬ S.Solid .null v := by
  intro h
  have same := h.typeOf
  cases v with
  | null => cases h.notNull
  | _ => cases same

theorem solid_bool (b : Bool) : S.Solid .bool (.bool b) := .single rfl rfl rfl

theorem solid_int (n : Int32) : S.Solid .int (.int n) := .single rfl rfl rfl

theorem solid_text (s : String) : S.Solid .text (.text s) := .single rfl rfl rfl

theorem Solid.int (h : S.Solid .int v) : ∃ n, v = .int n := by
  have same := h.typeOf
  cases v with
  | int n => exact ⟨n, rfl⟩
  | _ => cases same

theorem Solid.text (h : S.Solid .text v) : ∃ s, v = .text s := by
  have same := h.typeOf
  cases v with
  | text s => exact ⟨s, rfl⟩
  | _ => cases same

theorem Solid.record {kind : κ} (h : S.Solid (.record kind) v) :
    ∃ r origin, v = .record r origin ∧ S.kindOf r = kind := by
  have same := h.typeOf
  cases v with
  | record r origin =>
    cases same
    exact ⟨r, origin, rfl, rfl⟩
  | _ => cases same

theorem Solid.sequence_items {element : ValueType κ} (h : S.Solid (.sequence element) v) :
    ∃ items origin, v = .sequence element items origin ∧ ∀ a ∈ items, S.Solid element a := by
  have same := h.typeOf
  cases h with
  | single _ single _ =>
    cases v with
    | sequence => cases single
    | _ => cases same
  | @sequence _ items origin h => exact ⟨items, origin, rfl, h⟩

theorem solid_ofItems {items : List (Value κ ρ)} (h : ∀ v ∈ items, S.Solid type v) :
    S.Solid (.sequence type) (.ofItems type items) := .sequence h

/-! ## Members and methods -/

/-- A text test takes one text and gives a condition. -/
theorem call_textTest (name : String) (test : String → String → Bool)
    {arguments : List (Value κ ρ)} (hv : S.Solid .text v)
    (ha : List.Forall₂ S.Solid [.text] arguments) :
    ∃ r, (S.textTest name test).call v arguments = .ok r ∧ S.Solid .bool r := by
  obtain ⟨s, rfl⟩ := hv.text
  cases ha with
  | cons h rest =>
    obtain ⟨needle, rfl⟩ := h.text
    exact ⟨_, rfl, solid_bool _⟩

theorem call_textMap (name : String) (f : String → String) {arguments : List (Value κ ρ)}
    (hv : S.Solid .text v) :
    ∃ r, (S.textMap name f).call v arguments = .ok r ∧ S.Solid .text r := by
  obtain ⟨s, rfl⟩ := hv.text
  exact ⟨_, rfl, solid_text _⟩

theorem solid_get_textMembers {m : Member κ ρ} (hm : m ∈ textMembers) (hv : S.Solid .text v) :
    S.Solid m.type (m.get v) := by
  simp only [textMembers, List.mem_singleton] at hm
  subst hm
  obtain ⟨s, rfl⟩ := hv.text
  exact solid_int _

theorem solid_get_timestampMembers {m : Member κ ρ} (hm : m ∈ timestampMembers)
    (hv : S.Solid .timestamp v) : S.Solid m.type (m.get v) := by
  simp only [timestampMembers, List.mem_cons, List.not_mem_nil, or_false] at hm
  have same := hv.typeOf
  cases v with
  | timestamp t =>
    rcases hm with rfl | rfl | rfl | rfl | rfl
    all_goals exact solid_int _
  | _ => cases same

theorem solid_get_sequenceMembers {m : Member κ ρ} {element : ValueType κ}
    (hm : m ∈ sequenceMembers) (hv : S.Solid (.sequence element) v) :
    S.Solid m.type (m.get v) := by
  simp only [sequenceMembers, List.mem_singleton] at hm
  subst hm
  obtain ⟨items, origin, rfl, -⟩ := hv.sequence_items
  exact solid_int _

variable {but : List String}

/-- Every member that a type has gives a solid value. -/
theorem Answers.solid_get (h : S.Answers but) {m : Member κ ρ} (hm : m ∈ S.membersOf type)
    (hn : m.name ∉ but) (hv : S.Solid type v) : S.Solid m.type (m.get v) := by
  cases type with
  | record kind => exact h.get kind m hm hn v hv
  | text => exact solid_get_textMembers hm hv
  | timestamp => exact solid_get_timestampMembers hm hv
  | sequence element => exact solid_get_sequenceMembers hm hv
  | _ => cases hm

theorem Answers.parameter (h : S.Answers but) {m : Method κ ρ} (hm : m ∈ S.methodsOf type) :
    ∀ t ∈ m.parameters, ∀ a r, t ≠ .function a r := by
  cases type with
  | record kind => exact h.values kind m hm
  | text =>
    rcases textMethods_cases hm with ⟨name, test, rfl⟩ | ⟨name, f, rfl⟩
    · simp [textTest]
    · simp [textMap]
  | _ => cases hm

/-- Every method that a type has takes solid arguments and gives a solid value. -/
theorem Answers.solid_call (h : S.Answers but) {m : Method κ ρ} (hm : m ∈ S.methodsOf type)
    (hv : S.Solid type v) {arguments : List (Value κ ρ)}
    (ha : List.Forall₂ S.Solid m.parameters arguments) :
    ∃ r, m.call v arguments = .ok r ∧ S.Solid m.returns r := by
  cases type with
  | record kind => exact h.call kind m hm v arguments hv ha
  | text =>
    rcases textMethods_cases hm with ⟨name, test, rfl⟩ | ⟨name, f, rfl⟩
    · exact call_textTest _ _ hv ha
    · exact call_textMap _ _ hv
  | _ => cases hm

end CommitQuery.Schema
