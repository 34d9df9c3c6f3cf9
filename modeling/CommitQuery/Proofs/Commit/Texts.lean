-- The texts in a value: those of a commit, of its files and of their lines, and those that
-- the members of other records answer.
import CommitQuery.Commit.Records
import CommitQuery.Proofs.Result.Cells

namespace CommitQuery

/-! ## Records of a repository -/

/-- The lines include those that were not changed. -/
def FileChange.texts (f : FileChange) : List String :=
  f.path :: f.oldPath.toList ++ f.lines.map (·.text)

def Diff.texts (d : Diff) : List String := d.files.flatMap (·.texts)

def Commit.texts (c : Commit) : List String :=
  [c.sha, c.message, c.authorName, c.authorEmail, c.committerName, c.committerEmail] ++
    c.diff.texts

def MatchedLine.texts (m : MatchedLine) : List String :=
  m.path :: m.text :: m.search :: m.before.toList ++ m.after.toList

/-- A match has no texts but those of the file and the text that was searched for. -/
theorem mem_texts_of_matchesFrom {path search : String} {wanted : LineKind → Bool}
    {before : Option String} {lines : List DiffLine} {m : MatchedLine}
    (hm : m ∈ FileChange.matchesFrom path search wanted before lines) {s : String}
    (hs : s ∈ m.texts) :
    s = search ∨ s = path ∨ s ∈ before.toList ∨ s ∈ lines.map (·.text) := by
  induction lines generalizing before with
  | nil => cases hm
  | cons line rest ih =>
    have later : m ∈ FileChange.matchesFrom path search wanted (some line.text) rest →
        s = search ∨ s = path ∨ s ∈ before.toList ∨ s ∈ (line :: rest).map (·.text) := by
      intro hm
      rcases ih hm with h | h | h | h
      · exact .inl h
      · exact .inr (.inl h)
      · rw [Option.toList_some, List.mem_singleton] at h
        exact .inr (.inr (.inr (by simp [h])))
      · exact .inr (.inr (.inr (List.mem_cons_of_mem _ h)))
    rw [FileChange.matchesFrom] at hm
    split at hm
    · rcases List.mem_cons.mp hm with rfl | hm
      · simp only [MatchedLine.texts, List.mem_append, List.mem_cons] at hs
        rcases hs with (rfl | rfl | rfl | h) | h
        · exact .inr (.inl rfl)
        · exact .inr (.inr (.inr List.mem_cons_self))
        · exact .inl rfl
        · exact .inr (.inr (.inl h))
        · cases rest with
          | nil => cases h
          | cons next rest =>
            have next : s = next.text := by simpa using h
            exact .inr (.inr (.inr (by simp [next])))
      · exact later hm
    · exact later hm

theorem Diff.mem_texts_of_matchingLines {d : Diff} {search : String} {added deleted : Bool}
    {m : MatchedLine} (hm : m ∈ d.matchingLines search added deleted) {s : String}
    (hs : s ∈ m.texts) : s = search ∨ s ∈ d.texts := by
  obtain ⟨f, hf, hm⟩ := List.mem_flatMap.mp hm
  have of_file : s ∈ f.texts → s ∈ d.texts := fun h => List.mem_flatMap.mpr ⟨f, hf, h⟩
  rcases mem_texts_of_matchesFrom hm hs with h | rfl | h | h
  · exact .inl h
  · exact .inr (of_file (List.mem_cons_self ..))
  · cases h
  · exact .inr (of_file (List.mem_cons_of_mem _ (List.mem_append_right _ h)))

/-! ## Values -/

variable {ε σ : Type}

/-- A text is in a value: it is the value or in an item of it, it belongs to a commit or to
what a commit changes, or it is in what a member answers. -/
inductive HasText (x : Extension ε σ) : Value (Kind ε) (Record σ) → String → Prop
  | text (s : String) : HasText x (.text s) s
  | item {element : ValueType (Kind ε)} {items : List (Value (Kind ε) (Record σ))}
      {origin : Option Nat} {v : Value (Kind ε) (Record σ)} {s : String} (hv : v ∈ items)
      (h : HasText x v s) : HasText x (.sequence element items origin) s
  | commit {c : Commit} {origin : Option Nat} {s : String} (h : s ∈ c.texts) :
      HasText x (.record (.commit c) origin) s
  | diff {d : Diff} {origin : Option Nat} {s : String} (h : s ∈ d.texts) :
      HasText x (.record (.diff d) origin) s
  | file {f : FileChange} {origin : Option Nat} {s : String} (h : s ∈ f.texts) :
      HasText x (.record (.file f) origin) s
  | member {v : Value (Kind ε) (Record σ)} {kind : Kind ε} {m : Member (Kind ε) (Record σ)}
      {s : String} (some : v.isNull = false) (hm : m ∈ x.schema.members kind)
      (h : HasText x (m.get v) s) : HasText x v s

variable {x : Extension ε σ} {v : Value (Kind ε) (Record σ)} {s : String}

theorem not_hasText_null : ¬ HasText x .null s := by
  intro h
  cases h with
  | member some _ _ => cases some

/-- What a column shows of a value has no other texts than the value. -/
theorem HasText.of_follow {kind : Kind ε} {path : List (Member (Kind ε) (Record σ))}
    (leads : x.schema.Leads kind path) (h : HasText x (v.follow path) s) : HasText x v s := by
  induction leads generalizing v with
  | last hm =>
    rw [Value.follow] at h
    split at h
    · exact absurd h not_hasText_null
    · rename_i some
      exact .member (Bool.eq_false_iff.mpr some) hm h
  | through hm _ _ ih =>
    rw [Value.follow] at h
    split at h
    · exact absurd h not_hasText_null
    · rename_i some
      exact .member (Bool.eq_false_iff.mpr some) hm (ih h)

theorem HasText.of_cell {type : ValueType (Kind ε)} {c : Column (Kind ε) (Record σ)}
    (hc : c ∈ x.schema.columnsOf type) (h : HasText x (v.follow c.path) s) : HasText x v s := by
  cases type with
  | record kind =>
    obtain ⟨path, same, leads⟩ := Schema.leads_of_mem_columnsBelow hc
    rw [same, List.nil_append] at h
    exact h.of_follow leads
  | _ =>
    rw [List.mem_singleton.mp hc] at h
    exact h

/-- The members of a repository's records have Null in every other value. -/
theorem not_hasText_member {kind : Kind Empty} {m : Member (Kind Empty) (Record Empty)}
    (hm : m ∈ Extension.nothing.schema.members kind) {v : Value (Kind Empty) (Record Empty)}
    (hv : ∀ r origin, v ≠ .record r origin) {s : String} : ¬ HasText .nothing (m.get v) s := by
  have null : ∀ {α : Type} (read : Record Empty → Option α) (name : String)
      (type : ValueType (Kind Empty)) (part : α → Value (Kind Empty) (Record Empty)),
      ¬ HasText .nothing ((recordMember read name type part).get v) s := by
    intro α read name type part
    cases v with
    | record r origin => exact absurd rfl (hv r origin)
    | _ => exact not_hasText_null
  cases kind with
  | other e => exact e.elim
  | commit =>
    simp only [Extension.schema, Extension.kindMembers, Records.commitMembers, List.mem_cons,
      List.not_mem_nil, or_false] at hm
    rcases hm with rfl | rfl | rfl | rfl | rfl | rfl | rfl | rfl | rfl | rfl <;> exact null _ _ _ _
  | diff =>
    simp only [Extension.schema, Extension.kindMembers, Records.diffMembers, List.mem_cons,
      List.not_mem_nil, or_false] at hm
    rcases hm with rfl | rfl | rfl | rfl <;> exact null _ _ _ _
  | file =>
    simp only [Extension.schema, Extension.kindMembers, Records.fileMembers, List.mem_cons,
      List.not_mem_nil, or_false] at hm
    rcases hm with rfl | rfl | rfl | rfl | rfl | rfl | rfl | rfl <;> exact null _ _ _ _

end CommitQuery
