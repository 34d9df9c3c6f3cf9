-- Values that keep to their types, and schemas that do. Texts, timestamps and
-- sequences keep to theirs in every schema; what records answer is up to the
-- schema, and one whose records keep to it is called honest.
import CommitQuery.Proofs.Plan.Walk
import CommitQuery.Value.Schema

namespace CommitQuery.Schema

variable {κ ρ : Type}

/-! ## Values -/

section Values

variable (S : Schema κ ρ)

/-- Null, or a value of the type. -/
def Admits (type : ValueType κ) (v : Value κ ρ) : Prop := v = .null ∨ S.typeOf v = type

/-- Every item of every sequence in a value, at any nesting, is Null or of the type that
its sequence declares. -/
inductive Coherent : Value κ ρ → Prop
  | single {v : Value κ ρ} (h : v.items? = none) : Coherent v
  | sequence {element : ValueType κ} {items : List (Value κ ρ)} {origin : Option Nat}
      (typed : ∀ v ∈ items, S.Admits element v) (inner : ∀ v ∈ items, Coherent v) :
      Coherent (.sequence element items origin)

/-- A value that a place of some type may hold, items and all. -/
def Fits (type : ValueType κ) (v : Value κ ρ) : Prop := S.Admits type v ∧ S.Coherent v

end Values

variable {S : Schema κ ρ} {type : ValueType κ}

theorem fits_single {v : Value κ ρ} (h : v.items? = none) : S.Fits (S.typeOf v) v :=
  ⟨.inr rfl, .single h⟩

theorem fits_null (type : ValueType κ) : S.Fits type .null := ⟨.inl rfl, .single rfl⟩

theorem fits_sequence {items : List (Value κ ρ)} (h : ∀ v ∈ items, S.Fits type v)
    (origin : Option Nat) : S.Fits (.sequence type) (.sequence type items origin) :=
  ⟨.inr rfl, .sequence (fun v hv => (h v hv).1) fun v hv => (h v hv).2⟩

theorem Fits.items {element : ValueType κ} {items : List (Value κ ρ)} {origin : Option Nat}
    (h : S.Fits type (.sequence element items origin)) : ∀ v ∈ items, S.Fits element v := by
  cases h.2 with
  | single none => cases none
  | sequence typed inner => exact fun v hv => ⟨typed v hv, inner v hv⟩

/-- A place of type Null holds nothing but Null, which fits everywhere. -/
theorem Admits.of_null {v : Value κ ρ} (h : S.Admits .null v) (type : ValueType κ) :
    S.Admits type v := by
  rcases h with rfl | ht
  · exact .inl rfl
  · cases v with
    | null => exact .inl rfl
    | _ => cases ht

theorem Fits.of_null {v : Value κ ρ} (h : S.Fits .null v) (type : ValueType κ) :
    S.Fits type v := ⟨h.1.of_null type, h.2⟩

theorem Fits.typeOf {v : Value κ ρ} (h : S.Fits type v) (hn : v.isNull = false) :
    S.typeOf v = type := by
  obtain ⟨rfl | ht, -⟩ := h
  · cases hn
  · exact ht

/-! ## Schemas -/

/-- A schema whose records keep to it: a member of a record is Null or of the declared
type, and so is the result of a method on arguments that fit its parameters, if the
method gives one. -/
structure Honest (S : Schema κ ρ) : Prop where
  get : ∀ kind, ∀ m ∈ S.members kind, ∀ v, S.typeOf v = .record kind → S.Fits m.type (m.get v)
  call : ∀ kind, ∀ m ∈ S.methods kind, ∀ v arguments r, S.typeOf v = .record kind →
    List.Forall₂ S.Fits m.parameters arguments → m.call v arguments = .ok r → S.Fits m.returns r

theorem fits_get_textMembers {m : Member κ ρ} (hm : m ∈ textMembers) (v : Value κ ρ) :
    S.Fits m.type (m.get v) := by
  simp only [textMembers, List.mem_singleton] at hm
  subst hm
  cases v with
  | text s => exact fits_single rfl
  | _ => exact fits_null _

theorem fits_get_timestampMember (name : String) (part : Timestamp → Int) (v : Value κ ρ) :
    S.Fits .int ((timestampMember name part : Member κ ρ).get v) := by
  cases v with
  | timestamp t => exact fits_single rfl
  | _ => exact fits_null _

theorem fits_get_timestampMembers {m : Member κ ρ} (hm : m ∈ timestampMembers)
    (v : Value κ ρ) : S.Fits m.type (m.get v) := by
  simp only [timestampMembers, List.mem_cons, List.not_mem_nil, or_false] at hm
  rcases hm with rfl | rfl | rfl | rfl | rfl
  all_goals exact fits_get_timestampMember _ _ v

theorem fits_get_sequenceMembers {m : Member κ ρ} (hm : m ∈ sequenceMembers) (v : Value κ ρ) :
    S.Fits m.type (m.get v) := by
  simp only [sequenceMembers, List.mem_singleton] at hm
  subst hm
  cases v with
  | sequence element items origin => exact fits_single rfl
  | _ => exact fits_null _

/-- A method of texts tests its receiver or changes it. -/
theorem textMethods_cases {m : Method κ ρ} (hm : m ∈ S.textMethods) :
    (∃ name test, m = S.textTest name test) ∨ ∃ name f, m = S.textMap name f := by
  simp only [textMethods, List.mem_cons, List.not_mem_nil, or_false] at hm
  rcases hm with rfl | rfl | rfl | rfl | rfl | rfl | rfl
  all_goals first | exact .inl ⟨_, _, rfl⟩ | exact .inr ⟨_, _, rfl⟩

theorem fits_call_textTest {name : String} {test : String → String → Bool} {v r : Value κ ρ}
    {arguments : List (Value κ ρ)} (h : (S.textTest name test).call v arguments = .ok r) :
    S.Fits .bool r := by
  obtain ⟨s, -, h⟩ := bind_eq_ok.mp h
  obtain ⟨needle, -, h⟩ := bind_eq_ok.mp h
  cases h
  exact fits_single rfl

theorem fits_call_textMap {name : String} {f : String → String} {v r : Value κ ρ}
    {arguments : List (Value κ ρ)} (h : (S.textMap name f).call v arguments = .ok r) :
    S.Fits .text r := by
  obtain ⟨s, -, h⟩ := bind_eq_ok.mp h
  cases h
  exact fits_single rfl

theorem fits_call_textMethods {m : Method κ ρ} (hm : m ∈ S.textMethods) {v r : Value κ ρ}
    {arguments : List (Value κ ρ)} (h : m.call v arguments = .ok r) : S.Fits m.returns r := by
  rcases textMethods_cases hm with ⟨name, test, rfl⟩ | ⟨name, f, rfl⟩
  · exact fits_call_textTest h
  · exact fits_call_textMap h

/-- Every member that a type has keeps to its type. -/
theorem Honest.fits_get (honest : S.Honest) {m : Member κ ρ} (hm : m ∈ S.membersOf type)
    {v : Value κ ρ} (hv : S.typeOf v = type) : S.Fits m.type (m.get v) := by
  cases type with
  | record kind => exact honest.get kind m hm v hv
  | text => exact fits_get_textMembers hm v
  | timestamp => exact fits_get_timestampMembers hm v
  | sequence element => exact fits_get_sequenceMembers hm v
  | _ => cases hm

/-- Every method that a type has keeps to its type. -/
theorem Honest.fits_call (honest : S.Honest) {m : Method κ ρ} (hm : m ∈ S.methodsOf type)
    {v r : Value κ ρ} (hv : S.typeOf v = type) {arguments : List (Value κ ρ)}
    (ha : List.Forall₂ S.Fits m.parameters arguments) (h : m.call v arguments = .ok r) :
    S.Fits m.returns r := by
  cases type with
  | record kind => exact honest.call kind m hm v arguments r hv ha h
  | text => exact fits_call_textMethods hm h
  | _ => cases hm

end CommitQuery.Schema
