-- What a query that compiles is made of: the plans of its parts, each in the scope that the
-- part stands in, and the type that each member and each call takes from its target.
import CommitQuery.Proofs.Plan.WellFormed

namespace CommitQuery

open CommitQuery.Query

variable {κ ρ : Type}

namespace Plan

/-- Outside of all lambdas a name is the root. -/
theorem ofName_root {S : Schema κ ρ} {root : Root κ ρ} {x : String} {q : Plan κ ρ}
    (h : ofName root [] x = .ok q) : x = root.name ∧ q.type S = root.type := by
  unfold ofName at h
  split at h
  · rename_i b hb
    cases hb
  · split at h
    · rename_i same
      cases h
      exact ⟨same, rfl⟩
    · cases h

variable [DecidableEq κ] {S : Schema κ ρ} {root : Root κ ρ} {scope : Scope κ}
  {element : Option (ValueType κ)}

/-! ## Members and calls -/

theorem compileIn_member {target : Expr} {field : String} {p : Plan κ ρ}
    (h : compileIn S root scope element (.member target field) = .ok p) :
    ∃ source m, compileIn S root scope element target = .ok source ∧
      S.findMember? (source.type S) field = some m ∧ p.type S = m.type := by
  simp only [compileIn, bind_eq_ok] at h
  obtain ⟨_, _, source, hs, h⟩ := h
  unfold ofMember at h
  split at h
  · rename_i m hm
    cases h
    exact ⟨source, m, hs, hm, rfl⟩
  · cases h

/-- A call is one of an operator of sequences or one of a method. -/
theorem compileIn_call {target : Expr} {method : String} {arguments : List Expr} {p : Plan κ ρ}
    (h : compileIn S root scope element (.call target method arguments) = .ok p) :
    ∃ source, compileIn S root scope element target = .ok source ∧
      ((∃ item op, source.type S = .sequence item ∧ SequenceOperator.ofName? method = some op ∧
          compileOperator S root scope source item op arguments = .ok p) ∨
        ((∀ item, source.type S ≠ .sequence item) ∧
          ∃ ps, compileAll S root scope element arguments = .ok ps ∧
            ofCall S source method ps = .ok p)) := by
  simp only [compileIn, bind_eq_ok] at h
  obtain ⟨_, _, source, hs, h⟩ := h
  refine ⟨source, hs, ?_⟩
  split at h
  · rename_i item ts
    split at h
    · cases h
    · rename_i op hop
      exact .inl ⟨item, op, ts, hop, h⟩
  · rename_i other
    obtain ⟨ps, ha, h⟩ := bind_eq_ok.mp h
    exact .inr ⟨other, ps, ha, h⟩

/-- A called method is one of the target's, found by its name. -/
theorem type_ofCall {source p : Plan κ ρ} {name : String} {arguments : List (Plan κ ρ)}
    (h : ofCall S source name arguments = .ok p) :
    ∃ m ∈ S.methodsOf (source.type S), Text.equalsIgnoringAsciiCase m.name name = true ∧
      p.type S = m.returns := by
  unfold ofCall at h
  split at h
  · cases h
  · rename_i first more found
    split at h
    · rename_i m hm
      cases h
      have mem := (chooseMethod?_some hm).1
      rw [← found] at mem
      obtain ⟨mem, fits⟩ := List.mem_filter.mp mem
      exact ⟨m, mem, (Bool.and_eq_true_iff.mp fits).1, rfl⟩
    · cases h

/-- The type of what an operator gives, where its lambda has no part in it. -/
def typeFrom? (item : ValueType κ) : SequenceOperator → Option (ValueType κ)
  | .filter | .sort _ | .slice _ => some (.sequence item)
  | .select => none
  | .find f => some (f.type item)

theorem type_ofLambda {source body p : Plan κ ρ} {item : ValueType κ} {op : SequenceOperator}
    {b : Binder κ} (ts : source.type S = .sequence item)
    (h : ofLambda S source item op b body = .ok p) : ∀ t ∈ typeFrom? item op, p.type S = t := by
  unfold ofLambda at h
  split at h
  · split at h <;> cases h
    simp [typeFrom?, type, ts]
  · simp [typeFrom?]
  · split at h <;> cases h
    simp [typeFrom?, type, ts]
  · split at h <;> cases h
    simp [typeFrom?, type, ts, ValueType.element, ValueType.element?]
  · cases h

theorem type_compileOperator {source p : Plan κ ρ} {item : ValueType κ} {op : SequenceOperator}
    {arguments : List Expr} (ts : source.type S = .sequence item)
    (h : compileOperator S root scope source item op arguments = .ok p) :
    ∀ t ∈ typeFrom? item op, p.type S = t := by
  unfold compileOperator at h
  split at h
  · split at h
    · cases h
      simp [typeFrom?, type, ts, ValueType.element, ValueType.element?]
    · cases h
  · split at h
    · cases h
    · simp only [bind_eq_ok] at h
      obtain ⟨_, _, b, _, h⟩ := h
      exact type_ofLambda ts h
  · split at h
    · obtain ⟨count, _, h⟩ := bind_eq_ok.mp h
      unfold ofCount at h
      split at h <;> cases h
      all_goals simp [typeFrom?, type, ts]
    · cases h
  · cases h

/-! ## The parts of a query that compiles -/

theorem compileIn_binary {left right : Expr} {op : Operator} {p : Plan κ ρ}
    (h : compileIn S root scope element (.binary left op right) = .ok p) :
    (∃ l, compileIn S root scope element left = .ok l) ∧
      ∃ r, compileIn S root scope element right = .ok r := by
  simp only [compileIn, bind_eq_ok] at h
  obtain ⟨_, _, l, hl, _, _, r, hr, _⟩ := h
  exact ⟨⟨l, hl⟩, r, hr⟩

theorem compileIn_lambda {x : String} {body : Expr} {p : Plan κ ρ}
    (h : compileIn S root scope element (.lambda x body) = .ok p) :
    ∃ b, compileIn S root (scope.bind x (element.getD root.element) :: scope) element body =
      .ok b := by
  simp only [compileIn, bind_eq_ok] at h
  obtain ⟨_, _, b, hb, _⟩ := h
  exact ⟨b, hb⟩

theorem compileAll_argument {es : List Expr} {ps : List (Plan κ ρ)}
    (h : compileAll S root scope element es = .ok ps) {a : Expr} (ha : a ∈ es) :
    ∃ q, compileIn S root scope element a = .ok q := by
  induction es generalizing ps with
  | nil => cases ha
  | cons e more ih =>
    simp only [compileAll, bind_eq_ok] at h
    obtain ⟨q, hq, rest, hrest, _⟩ := h
    rcases List.mem_cons.mp ha with rfl | ha
    · exact ⟨q, hq⟩
    · exact ih hrest ha

/-- The argument of an operator stands within the operator's items. -/
theorem compileOperator_argument {source p : Plan κ ρ} {item : ValueType κ}
    {op : SequenceOperator} {arguments : List Expr}
    (h : compileOperator S root scope source item op arguments = .ok p) {a : Expr}
    (ha : a ∈ arguments) : ∃ q, compileIn S root scope (some item) a = .ok q := by
  unfold compileOperator at h
  split at h
  · cases ha
  · rename_i x body
    split at h
    · cases h
    · simp only [bind_eq_ok] at h
      obtain ⟨u, value, b, hb, _⟩ := h
      obtain rfl := List.mem_singleton.mp ha
      refine ⟨.lambda (scope.bind x item) b, ?_⟩
      simp only [compileIn, Option.getD_some, value, hb]
      rfl
  · rename_i argument _
    split at h
    · obtain ⟨count, hc, _⟩ := bind_eq_ok.mp h
      obtain rfl := List.mem_singleton.mp ha
      exact ⟨count, hc⟩
    · cases h
  · cases h

/-- An argument stands within the items of the call's target, if that is a sequence, and
else where the call stands. -/
theorem compileIn_argument {target : Expr} {method : String} {arguments : List Expr}
    {source p : Plan κ ρ}
    (h : compileIn S root scope element (.call target method arguments) = .ok p)
    (hs : compileIn S root scope element target = .ok source) {a : Expr} (ha : a ∈ arguments) :
    ∃ q, compileIn S root scope ((source.type S).element?.or element) a = .ok q := by
  obtain ⟨source', hs', cases⟩ := compileIn_call h
  cases hs.symm.trans hs'
  rcases cases with ⟨item, op, ts, -, h⟩ | ⟨other, ps, h, -⟩
  · rw [ts]
    exact compileOperator_argument h ha
  · have none : (source.type S).element? = none := by
      cases ts : source.type S with
      | sequence item => exact absurd ts (other item)
      | _ => rfl
    rw [none]
    exact compileAll_argument h ha

/-- A query text that compiles is read as a query, which is no lambda. -/
theorem compileText_eq_ok {query : String} {p : Plan κ ρ}
    (h : compileText S root query = .ok p) : ∃ e, Expr.parse query = .ok e ∧
      e.isLambda = false ∧ compileIn S root [] none e = .ok p := by
  unfold compileText at h
  split at h
  · rename_i e parsed
    obtain ⟨_, value, h⟩ := bind_eq_ok.mp h
    exact ⟨e, parsed, isLambda_of_requireValue value, h⟩
  · cases h

end Plan

end CommitQuery
