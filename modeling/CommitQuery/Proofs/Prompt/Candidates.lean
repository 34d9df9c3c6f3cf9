-- What completion offers after a dot is told by a type: the operators of sequences, the
-- members and the methods of that type, each name once.
import CommitQuery.Proofs.Prompt.Backward

namespace CommitQuery.Completion

open CommitQuery.Text CommitQuery.Query

variable {κ ρ : Type} (c : Completion κ ρ)

/-! ## What fits a type -/

/-- What can follow a dot after a value of a type, as it is written and shown. -/
inductive Follows (type : ValueType κ) : Candidate → Prop
  | operator {element : ValueType κ} (sequence : type = .sequence element)
      (op : SequenceOperator) : Follows type ⟨op.name, op.name ++ "(", "operator"⟩
  | member {m : Member κ ρ} (hm : m ∈ c.schema.membersOf type) :
      Follows type ⟨m.name, m.name, c.schema.typeName m.type⟩
  | method {m : Method κ ρ} (hm : m ∈ c.schema.methodsOf type) :
      Follows type ⟨m.name, m.name ++ "(", c.schema.signature m⟩

/-- All that fits a type and nothing else is offered, and no name twice: a name that an
operator and a member share, or methods that take other arguments, is offered for all. -/
structure Offers (type : ValueType κ) (candidates : List Candidate) : Prop where
  own : ∀ x ∈ candidates, c.Follows type x
  all : ∀ x, c.Follows type x → x.name ∈ candidates.map (·.name)
  once : (candidates.map (·.name)).Nodup

theorem mem_all (op : SequenceOperator) : op ∈ SequenceOperator.all := by
  cases op with
  | filter => decide
  | select => decide
  | sort descending => cases descending <;> decide
  | slice s => cases s <;> decide
  | find f => cases f <;> decide

theorem mem_membersOf {type : ValueType κ} {x : Candidate} :
    x ∈ c.membersOf type ↔ c.Follows type x := by
  unfold membersOf
  simp only [List.mem_append, List.mem_map]
  constructor
  · rintro ((h | ⟨m, hm, rfl⟩) | ⟨m, hm, rfl⟩)
    · split at h
      · obtain ⟨op, -, rfl⟩ := List.mem_map.mp h
        exact .operator rfl op
      · cases h
    · exact .member hm
    · exact .method hm
  · intro h
    cases h with
    | operator sequence op =>
      rw [sequence]
      exact .inl (.inl (List.mem_map.mpr ⟨op, mem_all op, rfl⟩))
    | member hm => exact .inl (.inr ⟨_, hm, rfl⟩)
    | method hm => exact .inr ⟨_, hm, rfl⟩

/-! ## Each name once -/

theorem distinct_subset (cs : List Candidate) : distinct cs ⊆ cs := by
  induction cs with
  | nil => simp [distinct]
  | cons x rest ih =>
    intro y hy
    rcases List.mem_cons.mp hy with rfl | hy
    · exact List.mem_cons_self
    · exact List.mem_cons_of_mem x (ih (List.mem_of_mem_filter hy))

/-- Of each name there is one left. -/
theorem name_mem_distinct {cs : List Candidate} {x : Candidate} (h : x ∈ cs) :
    x.name ∈ (distinct cs).map (·.name) := by
  induction cs with
  | nil => cases h
  | cons y rest ih =>
    rw [distinct, List.map_cons, List.mem_cons]
    by_cases same : x.name = y.name
    · exact .inl same
    · obtain ⟨z, hz, named⟩ := List.mem_map.mp (ih ((List.mem_cons.mp h).resolve_left
        (fun first => same (by rw [first]))))
      refine .inr (List.mem_map.mpr ⟨z, List.mem_filter.mpr ⟨hz, ?_⟩, named⟩)
      exact decide_eq_true (named.symm ▸ same)

theorem nodup_distinct (cs : List Candidate) : ((distinct cs).map (·.name)).Nodup := by
  induction cs with
  | nil => simp [distinct]
  | cons x rest ih =>
    rw [distinct, List.map_cons, List.nodup_cons]
    refine ⟨fun again => ?_, ih.sublist (List.filter_sublist.map _)⟩
    obtain ⟨y, hy, same⟩ := List.mem_map.mp again
    have other := (List.mem_filter.mp hy).2
    simp [same] at other

theorem offers_distinct (type : ValueType κ) : c.Offers type (distinct (c.membersOf type)) where
  own _ hx := c.mem_membersOf.mp (distinct_subset _ hx)
  all _ hx := name_mem_distinct (c.mem_membersOf.mpr hx)
  once := nodup_distinct _

/-! ## Right after a dot -/

/-- Before anything is typed every candidate fits. -/
theorem matching_nil (cs : List Candidate) : matching cs [] = distinct cs := by
  have all : (cs.filter fun x => (lowerList []).isPrefixOf (lowerList x.name.toList)) = cs :=
    List.filter_eq_self.mpr fun x _ => rfl
  rw [matching, all]

/-- What is offered behind a dot at the end of a line. -/
theorem suggest_dot (t : List Char) :
    c.suggest (String.ofList (t ++ ['.'])) (utf8Length (t ++ ['.'])) =
      (utf8Length (t ++ ['.']),
        ((c.receiverType? (t ++ ['.']) maxLinks t).map fun type =>
          distinct (c.membersOf type)).getD []) := by
  obtain ⟨word, before⟩ := word_of_beforeWord (beforeWord_append_dot t)
  unfold suggest
  rw [String.toList_ofList, splitBytes?_utf8Length]
  simp only [candidates, word, before, beforeDot?_append, matching_nil]
  cases c.receiverType? (t ++ ['.']) maxLinks t <;> rfl

/-- Behind a dot nothing is offered, or what fits the type that was found. -/
theorem suggest_of_receiverType? {t : List Char} {type : ValueType κ}
    (h : ∀ found ∈ c.receiverType? (t ++ ['.']) maxLinks t, found = type) :
    ∃ cs, c.suggest (String.ofList (t ++ ['.'])) (utf8Length (t ++ ['.'])) =
        (utf8Length (t ++ ['.']), cs) ∧
      (cs = [] ∨ c.Offers type cs) ∧
      (c.receiverType? (t ++ ['.']) maxLinks t = some type → c.Offers type cs) := by
  refine ⟨_, c.suggest_dot t, ?_⟩
  cases found : c.receiverType? (t ++ ['.']) maxLinks t with
  | none => exact ⟨.inl rfl, nofun⟩
  | some other =>
    obtain rfl := h other found
    exact ⟨.inr (c.offers_distinct other), fun _ => c.offers_distinct other⟩

end CommitQuery.Completion
