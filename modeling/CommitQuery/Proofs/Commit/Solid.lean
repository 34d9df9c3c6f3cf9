-- The records of a repository answer with values that hold no Null, with one member
-- left out: a file that was never renamed has no old path.
import CommitQuery.Proofs.Commit.Honest
import CommitQuery.Proofs.Value.Solid

namespace CommitQuery

open Schema

/-! ## Members and methods of records -/

section Records

variable {κ ρ α : Type} {S : Schema κ ρ} {type : ValueType κ}

/-- A member gives what it reads when the record is of the kind that it knows. -/
theorem solid_get_recordMember {read : ρ → Option α} {name : String} {part : α → Value κ ρ}
    {r : ρ} {a : α} (hr : read r = some a) (h : S.Solid type (part a)) (origin : Option Nat) :
    S.Solid type ((recordMember read name type part).get (.record r origin)) := by
  simp only [recordMember, hr]
  exact h

/-- A test of a record takes one text and gives a condition. -/
theorem solid_call_recordTest {names : Schema κ ρ} {read : ρ → Option α} {name : String}
    {test : α → String → Bool} {r : ρ} {a : α} (hr : read r = some a) (origin : Option Nat)
    {arguments : List (Value κ ρ)} (ha : List.Forall₂ S.Solid [.text] arguments) :
    ∃ v, (recordTest names read name test).call (.record r origin) arguments = .ok v ∧
      S.Solid .bool v := by
  cases ha with
  | cons h rest =>
    obtain ⟨needle, rfl⟩ := h.text
    refine ⟨.bool (test a needle), ?_, solid_bool _⟩
    simp only [recordTest, recordReceiver, hr]
    rfl

theorem solid_ofTexts (texts : List String) :
    S.Solid (.sequence .text) (.ofTexts texts) := by
  refine solid_ofItems fun v hv => ?_
  obtain ⟨s, -, rfl⟩ := List.mem_map.mp hv
  exact solid_text s

end Records

/-! ## The records of a repository -/

variable {ε σ : Type} {x : Extension ε σ} {r : Record σ} {m : Member (Kind ε) (Record σ)}

theorem solid_get_commitMembers (hm : m ∈ Records.commitMembers) (c : Commit)
    (origin : Option Nat) : x.schema.Solid m.type (m.get (.record (.commit c) origin)) := by
  simp only [Records.commitMembers, List.mem_cons, List.not_mem_nil, or_false] at hm
  have known : Record.commit? (.commit c : Record σ) = some c := rfl
  rcases hm with rfl | rfl | rfl | rfl | rfl | rfl | rfl | rfl | rfl | rfl
  all_goals
    refine solid_get_recordMember known ?_ origin
    exact .single rfl rfl rfl

theorem solid_get_diffMembers (hm : m ∈ Records.diffMembers) (d : Diff) (origin : Option Nat) :
    x.schema.Solid m.type (m.get (.record (.diff d) origin)) := by
  simp only [Records.diffMembers, List.mem_cons, List.not_mem_nil, or_false] at hm
  have known : Record.diff? (.diff d : Record σ) = some d := rfl
  rcases hm with rfl | rfl | rfl | rfl
  · refine solid_get_recordMember known (solid_ofItems fun file hfile => ?_) origin
    obtain ⟨f, -, rfl⟩ := List.mem_map.mp hfile
    exact .single rfl rfl rfl
  all_goals
    refine solid_get_recordMember known ?_ origin
    exact .single rfl rfl rfl

theorem solid_get_fileMembers (hm : m ∈ Records.fileMembers) (hn : m.name ≠ "OldPath")
    (f : FileChange) (origin : Option Nat) :
    x.schema.Solid m.type (m.get (.record (.file f) origin)) := by
  simp only [Records.fileMembers, List.mem_cons, List.not_mem_nil, or_false] at hm
  have known : Record.file? (.file f : Record σ) = some f := rfl
  rcases hm with rfl | rfl | rfl | rfl | rfl | rfl | rfl | rfl
  · exact solid_get_recordMember known (solid_text _) origin
  · exact absurd rfl hn
  · exact solid_get_recordMember known (solid_text _) origin
  · exact solid_get_recordMember known (solid_int _) origin
  · exact solid_get_recordMember known (solid_int _) origin
  · exact solid_get_recordMember known (solid_bool _) origin
  · exact solid_get_recordMember known (solid_ofTexts _) origin
  · exact solid_get_recordMember known (solid_ofTexts _) origin

/-- A record is of the kind that it says. -/
theorem kind_eq_diff (h : x.kind r = .diff) : ∃ d, r = .diff d := by
  cases r with
  | diff d => exact ⟨d, rfl⟩
  | _ => cases h

theorem kind_eq_file (h : x.kind r = .file) : ∃ f, r = .file f := by
  cases r with
  | file f => exact ⟨f, rfl⟩
  | _ => cases h

theorem kind_eq_commit (h : x.kind r = .commit) : ∃ c, r = .commit c := by
  cases r with
  | commit c => exact ⟨c, rfl⟩
  | _ => cases h

/-- Every method of a repository's records is a test of a record it knows. -/
theorem mem_kindMethods {x : Extension Empty σ} {kind : Kind Empty}
    {m : Method (Kind Empty) (Record σ)} (hm : m ∈ x.schema.methods kind) :
    m.parameters = [.text] ∧ m.returns = .bool ∧
      ∀ r origin arguments, x.kind r = kind → List.Forall₂ x.schema.Solid [.text] arguments →
        ∃ v, m.call (.record r origin) arguments = .ok v ∧ x.schema.Solid .bool v := by
  cases kind with
  | commit => cases hm
  | diff =>
    simp only [Extension.schema, Extension.kindMethods, List.mem_cons, List.not_mem_nil,
      or_false] at hm
    rcases hm with rfl | rfl | rfl
    all_goals
      refine ⟨rfl, rfl, fun r origin arguments hk ha => ?_⟩
      obtain ⟨d, rfl⟩ := kind_eq_diff hk
      have known : Record.diff? (.diff d : Record σ) = some d := rfl
      exact solid_call_recordTest known origin ha
  | file =>
    simp only [Extension.schema, Extension.kindMethods, List.mem_cons, List.not_mem_nil,
      or_false] at hm
    rcases hm with rfl | rfl | rfl
    all_goals
      refine ⟨rfl, rfl, fun r origin arguments hk ha => ?_⟩
      obtain ⟨f, rfl⟩ := kind_eq_file hk
      have known : Record.file? (.file f : Record σ) = some f := rfl
      exact solid_call_recordTest known origin ha
  | other kind => exact kind.elim

/-- Without other records, only the old path of a file may be missing. -/
theorem answers_schema {x : Extension Empty σ} {but : List String} (h : "OldPath" ∈ but) :
    x.schema.Answers but where
  get kind m hm hn v hv := by
    obtain ⟨r, origin, rfl, hk⟩ := hv.record
    cases kind with
    | commit =>
      obtain ⟨c, rfl⟩ := kind_eq_commit hk
      exact solid_get_commitMembers hm c origin
    | diff =>
      obtain ⟨d, rfl⟩ := kind_eq_diff hk
      exact solid_get_diffMembers hm d origin
    | file =>
      obtain ⟨f, rfl⟩ := kind_eq_file hk
      refine solid_get_fileMembers hm (fun same => hn ?_) f origin
      rw [same]
      exact h
    | other kind => exact kind.elim
  values kind m hm type ht a result := by
    rw [(mem_kindMethods hm).1, List.mem_singleton] at ht
    simp [ht]
  call kind m hm v arguments hv ha := by
    obtain ⟨r, origin, rfl, hk⟩ := hv.record
    obtain ⟨takes, gives, answers⟩ := mem_kindMethods hm
    rw [takes] at ha
    rw [gives]
    exact answers r origin arguments hk ha

theorem solid_ofCommits (commits : List Commit) :
    ∀ v ∈ (Root.ofCommits commits : Root (Kind ε) (Record σ)).items,
      x.schema.Solid (.record .commit) v := by
  intro v hv
  obtain ⟨c, -, rfl⟩ := List.mem_map.mp hv
  exact .single rfl rfl rfl

end CommitQuery
