-- The records of a repository keep to their types, whatever the repository holds: with
-- other records that keep to theirs, the schema of a repository is honest.
import CommitQuery.Commit.Records
import CommitQuery.Plan.Compile
import CommitQuery.Proofs.Value.Honest

namespace CommitQuery

open Schema

/-! ## Members and methods of records -/

section Records

variable {κ ρ α : Type} {S : Schema κ ρ} {type : ValueType κ} {v : Value κ ρ}

/-- A member keeps to its type when the part that it reads does. -/
theorem fits_get_recordMember {read : ρ → Option α} {name : String} {part : α → Value κ ρ}
    (h : ∀ a, S.Fits type (part a)) : S.Fits type ((recordMember read name type part).get v) := by
  cases v with
  | record r origin =>
    simp only [recordMember]
    cases read r with
    | none => exact fits_null type
    | some a => exact h a
  | _ => exact fits_null type

theorem fits_call_recordTest {names : Schema κ ρ} {read : ρ → Option α} {name : String}
    {test : α → String → Bool} {arguments : List (Value κ ρ)} {r : Value κ ρ}
    (h : (recordTest names read name test).call v arguments = .ok r) : S.Fits .bool r := by
  obtain ⟨a, -, h⟩ := bind_eq_ok.mp h
  obtain ⟨text, -, h⟩ := bind_eq_ok.mp h
  cases h
  exact fits_single rfl

theorem fits_ofText? (s : Option String) : S.Fits .text (.ofText? s) := by
  cases s with
  | none => exact fits_null .text
  | some s => exact fits_single rfl

theorem fits_ofTexts (texts : List String) : S.Fits (.sequence .text) (.ofTexts texts) := by
  refine fits_sequence ?_ none
  intro v hv
  obtain ⟨s, -, rfl⟩ := List.mem_map.mp hv
  exact fits_single rfl

end Records

/-! ## The records of a repository -/

variable {ε σ : Type} {x : Extension ε σ} {v : Value (Kind ε) (Record σ)}

theorem fits_get_commitMembers {m : Member (Kind ε) (Record σ)}
    (hm : m ∈ Records.commitMembers) : x.schema.Fits m.type (m.get v) := by
  simp only [Records.commitMembers, List.mem_cons, List.not_mem_nil, or_false] at hm
  rcases hm with rfl | rfl | rfl | rfl | rfl | rfl | rfl | rfl | rfl | rfl
  all_goals exact fits_get_recordMember fun c => fits_single rfl

theorem fits_get_diffMembers {m : Member (Kind ε) (Record σ)}
    (hm : m ∈ Records.diffMembers) : x.schema.Fits m.type (m.get v) := by
  simp only [Records.diffMembers, List.mem_cons, List.not_mem_nil, or_false] at hm
  rcases hm with rfl | rfl | rfl | rfl
  · refine fits_get_recordMember fun d => fits_sequence ?_ none
    intro file hfile
    obtain ⟨f, -, rfl⟩ := List.mem_map.mp hfile
    exact fits_single rfl
  all_goals exact fits_get_recordMember fun d => fits_single rfl

theorem fits_get_fileMembers {m : Member (Kind ε) (Record σ)}
    (hm : m ∈ Records.fileMembers) : x.schema.Fits m.type (m.get v) := by
  simp only [Records.fileMembers, List.mem_cons, List.not_mem_nil, or_false] at hm
  rcases hm with rfl | rfl | rfl | rfl | rfl | rfl | rfl | rfl
  · exact fits_get_recordMember fun f => fits_single rfl
  · exact fits_get_recordMember fun f => fits_ofText? f.oldPath
  · exact fits_get_recordMember fun f => fits_single rfl
  · exact fits_get_recordMember fun f => fits_single rfl
  · exact fits_get_recordMember fun f => fits_single rfl
  · exact fits_get_recordMember fun f => fits_single rfl
  · exact fits_get_recordMember fun f => fits_ofTexts f.addedLines
  · exact fits_get_recordMember fun f => fits_ofTexts f.deletedLines

/-- The schema of a repository is honest as soon as the other records are. -/
theorem honest_schema
    (get : ∀ kind, ∀ m ∈ x.members kind, ∀ v, x.schema.typeOf v = .record (.other kind) →
      x.schema.Fits m.type (m.get v))
    (call : ∀ kind, ∀ m ∈ x.methods kind, ∀ v arguments r,
      x.schema.typeOf v = .record (.other kind) →
      List.Forall₂ x.schema.Fits m.parameters arguments → m.call v arguments = .ok r →
      x.schema.Fits m.returns r) : x.schema.Honest := by
  refine ⟨?_, ?_⟩
  · intro kind m hm v hv
    cases kind with
    | commit => exact fits_get_commitMembers hm
    | diff => exact fits_get_diffMembers hm
    | file => exact fits_get_fileMembers hm
    | other kind => exact get kind m hm v hv
  · intro kind m hm v arguments r hv ha h
    cases kind with
    | commit => cases hm
    | diff =>
      simp only [Extension.schema, Extension.kindMethods, List.mem_cons, List.not_mem_nil,
        or_false] at hm
      rcases hm with rfl | rfl | rfl
      all_goals exact fits_call_recordTest h
    | file =>
      simp only [Extension.schema, Extension.kindMethods, List.mem_cons, List.not_mem_nil,
        or_false] at hm
      rcases hm with rfl | rfl | rfl
      all_goals exact fits_call_recordTest h
    | other kind => exact call kind m hm v arguments r hv ha h

theorem honest_schema_nothing : Extension.nothing.schema.Honest :=
  honest_schema (fun kind => kind.elim) fun kind => kind.elim

/-- The collection of a repository's commits, under its usual name. -/
def Root.ofCommits (commits : List Commit) : Root (Kind ε) (Record σ) :=
  ⟨"Commits", .record .commit, commits.map fun c => .ofRecord (.commit c)⟩

theorem fits_ofCommits (commits : List Commit) :
    ∀ v ∈ (Root.ofCommits commits : Root (Kind ε) (Record σ)).items,
      x.schema.Fits (Root.ofCommits commits : Root (Kind ε) (Record σ)).element v := by
  intro v hv
  obtain ⟨c, -, rfl⟩ := List.mem_map.mp hv
  exact fits_single rfl

/-- A commit that changes no file, made at the start of 1970. -/
def Commit.blank : Commit where
  sha := "0"
  message := ""
  authorName := ""
  authorEmail := ""
  authorWhen := ⟨⟨1970, 1, 1⟩, 0, 0, 0, 0, 0⟩
  committerName := ""
  committerEmail := ""
  committerWhen := ⟨⟨1970, 1, 1⟩, 0, 0, 0, 0, 0⟩
  diff := ⟨[]⟩

end CommitQuery
