-- What stands on the lines of a tree. The titles and the types of its nodes come from names,
-- which hold no blanks, and a detail starts with a word or a quote: a text in quotes is on one
-- line, whatever it holds.
import CommitQuery.Commit.Records
import CommitQuery.Proofs.Plan.Outline
import CommitQuery.Proofs.Query.Written

namespace CommitQuery

open CommitQuery.Text

/-! ## Words -/

/-- A text without blanks. -/
def Text.IsWord (s : String) : Prop := ∀ c ∈ s.toList, isBlank c = false

instance (s : String) : Decidable (IsWord s) := List.decidableBAll _ s.toList

theorem Query.IsName.isWord {x : String} (h : Query.IsName x) : IsWord x :=
  fun c hc => Query.isBlank_of_continuesName (h.continues c hc)

namespace Text.IsWord

variable {s t : String}

theorem ne_of_mem {c b : Char} (h : IsWord s) (hc : c ∈ s.toList) (hb : isBlank b = true) :
    c ≠ b := by
  rintro rfl
  rw [h c hc] at hb
  cases hb

theorem unbroken (h : IsWord s) : '\n' ∉ s.toList := by
  intro hc
  have newline : isBlank '\n' = true := by decide
  exact h.ne_of_mem hc newline rfl

theorem append (hs : IsWord s) (ht : IsWord t) : IsWord (s ++ t) := by
  unfold IsWord
  rw [String.toList_append]
  exact List.forall_mem_append.mpr ⟨hs, ht⟩

theorem isTitle (h : IsWord s) : PlanNode.IsTitle s := by
  refine ⟨h.unbroken, List.Pairwise.isChain (List.pairwise_of_forall_mem_list ?_)⟩
  intro a ha b _ both
  exact h.ne_of_mem ha (by decide) both.1

theorem isDetail (h : IsWord s) : PlanNode.IsDetail s :=
  ⟨h.unbroken, fun start => h.ne_of_mem (List.mem_of_mem_head? start) (by decide) rfl⟩

end Text.IsWord

/-! ## Titles and details -/

namespace PlanNode

theorem IsTitle.append {s t : String} (hs : IsTitle s) (ht : IsTitle t)
    (apart : ∀ a ∈ s.toList.getLast?, ∀ b ∈ t.toList.head?, ¬ (a = ' ' ∧ b = ' ')) :
    IsTitle (s ++ t) := by
  unfold IsTitle
  rw [String.toList_append, List.mem_append, not_or, List.isChain_append]
  exact ⟨⟨hs.1, ht.1⟩, hs.2, ht.2, apart⟩

/-- A title with a word at its end. -/
theorem isTitle_word {s word : String} (hs : IsTitle s) (hw : IsWord word) :
    IsTitle (s ++ word) := by
  refine hs.append hw.isTitle fun _ _ b hb both => ?_
  exact hw.ne_of_mem (List.mem_of_mem_head? hb) (by decide) both.2

theorem isTitle_lambda {x : String} (hx : Query.IsName x) :
    IsTitle ("Lambda " ++ x ++ " => ...") := by
  refine (isTitle_word (by decide) hx.isWord).append (by decide) fun a ha b _ both => ?_
  rw [String.toList_append, List.getLast?_append_of_ne_nil _ hx.ne_nil] at ha
  exact hx.isWord.ne_of_mem (List.mem_of_mem_getLast? ha) (by decide) both.1

theorem IsDetail.append {s t : String} (hs : IsDetail s) (ht : '\n' ∉ t.toList)
    (some : s.toList ≠ []) : IsDetail (s ++ t) := by
  unfold IsDetail
  rw [String.toList_append, List.mem_append, not_or, List.head?_append_of_ne_nil _ some]
  exact ⟨⟨hs.1, ht⟩, hs.2⟩

theorem isWord_toString (n : Nat) : IsWord (toString n) := by
  intro c hc
  rw [Nat.toString_eq_repr, Nat.toList_repr] at hc
  exact isBlank_of_isAsciiDigit (isAsciiDigit_of_mem_toDigits hc)

theorem isWord_toString_int (n : Int) : IsWord (toString n) := by
  cases n with
  | ofNat k => exact isWord_toString k
  | negSucc k =>
    have sign : IsWord "-" := by decide
    exact sign.append (isWord_toString (k + 1))

theorem isDetail_count (n : Nat) : IsDetail (toString n ++ " items") := by
  refine (isWord_toString n).isDetail.append (by decide) ?_
  rw [Nat.toString_eq_repr, Nat.toList_repr]
  exact Nat.toDigits_ne_nil

theorem isDetail_slot (n : Nat) : IsDetail ("slot " ++ toString n) :=
  IsDetail.append (by decide) (isWord_toString n).unbroken (by decide)

theorem unbroken_hexDigits (n : Nat) : '\n' ∉ hexDigits n := by
  induction n using Nat.strongRecOn with
  | ind n ih =>
    rw [hexDigits, Nat.toDigits_eq_if (by decide)]
    split
    · simp
    · rw [List.mem_append, not_or]
      exact ⟨ih (n / 16) (by omega), by simp⟩

theorem unbroken_escapeChar (c : Char) : '\n' ∉ escapeChar c := by
  unfold escapeChar
  split_ifs with _ _ _ newline special
  · decide
  · decide
  · decide
  · decide
  · rcases Bool.or_eq_true_iff.mp special with h | h <;> simp_all
  · simp [unbroken_hexDigits]
  · simpa using Ne.symm newline

/-- Between its quotes a text is on one line, whatever it holds. -/
theorem isDetail_quoted (s : String) : IsDetail (quoted s) := by
  unfold IsDetail
  rw [quoted, String.toList_ofList]
  refine ⟨?_, by simp⟩
  simp [unbroken_escapeChar]

end PlanNode

/-! ## Names of a schema -/

variable {κ ρ : Type}

namespace Schema

/-- A schema that names its types, members and methods by words. -/
structure Unspaced (S : Schema κ ρ) : Prop where
  kinds : ∀ kind, IsWord (S.nameOf kind)
  members : ∀ kind, ∀ m ∈ S.members kind, IsWord m.name
  methods : ∀ kind, ∀ m ∈ S.methods kind, IsWord m.name

variable {S : Schema κ ρ}

theorem Unspaced.member (hS : S.Unspaced) {type : ValueType κ} {m : Member κ ρ}
    (hm : m ∈ S.membersOf type) : IsWord m.name := by
  have named := List.mem_map_of_mem (f := (·.name)) hm
  cases type with
  | record kind => exact hS.members kind m hm
  | text =>
    have all : ∀ name ∈ ["Length"], IsWord name := by decide
    exact all _ named
  | timestamp =>
    have all : ∀ name ∈ ["Year", "Month", "Day", "Hour", "Minute"], IsWord name := by decide
    exact all _ named
  | sequence =>
    have all : ∀ name ∈ ["Count"], IsWord name := by decide
    exact all _ named
  | _ => cases hm

theorem Unspaced.method (hS : S.Unspaced) {type : ValueType κ} {m : Method κ ρ}
    (hm : m ∈ S.methodsOf type) : IsWord m.name := by
  have named := List.mem_map_of_mem (f := (·.name)) hm
  cases type with
  | record kind => exact hS.methods kind m hm
  | text =>
    have all : ∀ name ∈ ["Contains", "StartsWith", "EndsWith", "Equals", "ToLower", "ToUpper",
      "Trim"], IsWord name := by decide
    exact all _ named
  | _ => cases hm

theorem Unspaced.unbroken_typeName (hS : S.Unspaced) (type : ValueType κ) :
    '\n' ∉ (S.typeName type).toList := by
  induction type with
  | record kind => exact (hS.kinds kind).unbroken
  | sequence element ih => simp [typeName, ih]
  | function parameter result hp hr => simp [typeName, hp, hr]
  | _ => simp [typeName]

theorem Unspaced.isDetail_signature (hS : S.Unspaced) {m : Method κ ρ} (hm : IsWord m.name) :
    PlanNode.IsDetail (S.signature m) := by
  have parameters : '\n' ∉ (joinWith ", " (m.parameters.map S.typeName)).toList := by
    intro hc
    rcases mem_of_mem_joinWith hc with hc | ⟨name, mem, hc⟩
    · exact absurd hc (by decide)
    · obtain ⟨type, -, rfl⟩ := List.mem_map.mp mem
      exact hS.unbroken_typeName type hc
  have opening : IsWord "(" := by decide
  rw [signature, String.append_assoc, String.append_assoc]
  refine (hm.append opening).isDetail.append ?_ (by simp)
  simp [parameters, hS.unbroken_typeName]

/-- The names that a repository brings are words. -/
theorem unspaced_schema {ε σ : Type} {x : Extension ε σ} (kinds : ∀ e, IsWord (x.nameOf e))
    (members : ∀ e, ∀ m ∈ x.members e, IsWord m.name)
    (methods : ∀ e, ∀ m ∈ x.methods e, IsWord m.name) : x.schema.Unspaced := by
  let alone := Extension.nothing.schema
  refine ⟨fun kind => ?_, fun kind m hm => ?_, fun kind m hm => ?_⟩
  · cases kind with
    | other e => exact kinds e
    | commit => exact (by decide : IsWord "CommitInfo")
    | diff => exact (by decide : IsWord "DiffData")
    | file => exact (by decide : IsWord "FileChange")
  · have named := List.mem_map_of_mem (f := (·.name)) hm
    cases kind with
    | other e => exact members e m hm
    | commit => exact (by decide : ∀ n ∈ (alone.members .commit).map (·.name), IsWord n) _ named
    | diff => exact (by decide : ∀ n ∈ (alone.members .diff).map (·.name), IsWord n) _ named
    | file => exact (by decide : ∀ n ∈ (alone.members .file).map (·.name), IsWord n) _ named
  · have named := List.mem_map_of_mem (f := (·.name)) hm
    cases kind with
    | other e => exact methods e m hm
    | commit => exact (by decide : ∀ n ∈ (alone.methods .commit).map (·.name), IsWord n) _ named
    | diff => exact (by decide : ∀ n ∈ (alone.methods .diff).map (·.name), IsWord n) _ named
    | file => exact (by decide : ∀ n ∈ (alone.methods .file).map (·.name), IsWord n) _ named

end Schema

end CommitQuery
