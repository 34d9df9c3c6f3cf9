-- How two values compare. Of Null and the values of one family, the order of sorting, the
-- order of operands and equality tell the same: one total preorder with Null below
-- everything, and its ties are the values that are equal. Every comparison operator reads
-- off this one order, and of Null only equality is ever true.
import CommitQuery.Plan.Evaluate
import CommitQuery.Proofs.Value.Order

namespace CommitQuery

open Query

variable {κ ρ : Type}

namespace Value

variable {k : Family} {a b c : Value κ ρ}

/-! ## The order of operands -/

theorem compare?_null_left (b : Value κ ρ) : compare? .null b = none := by
  cases b <;> rfl

theorem compare?_null_right (a : Value κ ρ) : compare? a .null = none := by
  cases a <;> rfl

theorem compare?_eq_none (h : a.isNull = true ∨ b.isNull = true) : a.compare? b = none := by
  rcases h with null | null
  · cases a with
    | null => exact compare?_null_left b
    | _ => cases null
  · cases b with
    | null => exact compare?_null_right a
    | _ => cases null

/-- Operands of one family, neither of them Null, are ordered as they are sorted. -/
theorem compare?_eq_sortOrder (ha : a.Of k) (hb : b.Of k) (some_a : a.isNull = false)
    (some_b : b.isNull = false) : a.compare? b = some (a.sortOrder b) := by
  cases ha with
  | null => cases some_a
  | _ =>
    cases hb with
    | null => cases some_b
    | _ => rfl

theorem isSome_compare?_iff (ha : a.Of k) (hb : b.Of k) :
    (a.compare? b).isSome = true ↔ a.isNull = false ∧ b.isNull = false := by
  constructor
  · intro ordered
    by_contra null
    have unordered : a.compare? b = none := by
      refine compare?_eq_none ?_
      simpa only [not_and_or, Bool.not_eq_false] using null
    rw [unordered] at ordered
    cases ordered
  · rintro ⟨some_a, some_b⟩
    rw [compare?_eq_sortOrder ha hb some_a some_b]
    rfl

theorem compare?_swap (ha : a.Of k) (hb : b.Of k) :
    a.compare? b = (b.compare? a).map Ordering.swap := by
  by_cases null : a.isNull = true ∨ b.isNull = true
  · rw [compare?_eq_none null, compare?_eq_none null.symm]
    rfl
  · obtain ⟨some_a, some_b⟩ : a.isNull = false ∧ b.isNull = false := by
      simpa only [not_or, Bool.not_eq_true] using null
    rw [compare?_eq_sortOrder ha hb some_a some_b, compare?_eq_sortOrder hb ha some_b some_a,
      sortOrder_swap ha hb]
    rfl

/-- Numbers of both widths are compared as the integers they stand for. -/
theorem compare?_of_toInt? {m n : Int} (ha : a.toInt? = some m) (hb : b.toInt? = some n) :
    a.compare? b = some (compare m n) ∧ a.equals b = decide (m = n) := by
  cases a with
  | int | long =>
    cases ha
    cases b with
    | int | long =>
      cases hb
      exact ⟨rfl, rfl⟩
    | _ => cases hb
  | _ => cases ha

/-! ## The order of sorting -/

theorem sortOrder_self (ha : a.Of k) : a.sortOrder a = .eq := by
  obtain ⟨K, _, _, key, h⟩ := exists_key (κ := κ) (ρ := ρ) k
  rw [h a a ha ha]
  exact Std.ReflCmp.compare_self

theorem sortOrder_total (ha : a.Of k) (hb : b.Of k) :
    (a.sortOrder b).isLE = true ∨ (b.sortOrder a).isLE = true := by
  rw [sortOrder_swap hb ha]
  cases a.sortOrder b with
  | lt => exact .inl rfl
  | eq => exact .inl rfl
  | gt => exact .inr rfl

theorem sortOrder_null_left (some_a : a.isNull = false) : sortOrder .null a = .lt := by
  cases a with
  | null => cases some_a
  | _ => rfl

theorem sortOrder_null_right (some_a : a.isNull = false) : a.sortOrder .null = .gt := by
  cases a with
  | null => cases some_a
  | _ => rfl

theorem compareTexts_eq_eq {s t : String} : compareTexts s t = .eq ↔ s = t := by
  unfold compareTexts
  rw [Ordering.then_eq_eq, Std.compare_eq_iff_eq, Std.compare_eq_iff_eq, String.toList_inj]
  exact ⟨And.right, fun same => ⟨by rw [same], same⟩⟩

theorem compare_eq_eq_iff_sameInstant {s t : Timestamp} :
    s.compare t = .eq ↔ s.sameInstant t = true := by
  unfold Timestamp.compare Timestamp.sameInstant
  rw [Ordering.then_eq_eq, Std.compare_eq_iff_eq, Std.compare_eq_iff_eq, Bool.and_eq_true,
    decide_eq_true_iff, decide_eq_true_iff]

/-- The values that are tied in sorting are the equal ones, family by family. -/
theorem equals_iff_sortOrder (ha : a.Of k) (hb : b.Of k) :
    a.equals b = true ↔ a.sortOrder b = .eq := by
  cases ha with
  | null =>
    cases hb with
    | null => exact iff_of_true rfl rfl
    | _ => exact iff_of_false Bool.false_ne_true (by rintro ⟨⟩)
  | bool m =>
    cases hb with
    | null => exact iff_of_false Bool.false_ne_true (by rintro ⟨⟩)
    | bool n => exact beq_iff_eq.trans Std.compare_eq_iff_eq.symm
  | int m | long m =>
    cases hb with
    | null => exact iff_of_false Bool.false_ne_true (by rintro ⟨⟩)
    | int n | long n => exact beq_iff_eq.trans Std.compare_eq_iff_eq.symm
  | text s =>
    cases hb with
    | null => exact iff_of_false Bool.false_ne_true (by rintro ⟨⟩)
    | text t => exact beq_iff_eq.trans compareTexts_eq_eq.symm
  | timestamp s =>
    cases hb with
    | null => exact iff_of_false Bool.false_ne_true (by rintro ⟨⟩)
    | timestamp t => exact compare_eq_eq_iff_sameInstant.symm

end Value

/-! ## The operators -/

namespace Query.Comparison

/-- What an operator says about operands in some order. -/
def admits : Comparison → Ordering → Bool
  | .equal, o => o.isEq
  | .notEqual, o => !o.isEq
  | .greater, o => o.isGT
  | .less, o => o.isLT
  | .greaterOrEqual, o => o.isGE
  | .lessOrEqual, o => o.isLE

theorem existsUnique_admits (o : Ordering) :
    ∃! op, op ∈ [Comparison.less, .equal, .greater] ∧ admits op o = true := by
  cases o with
  | lt => exact ⟨.less, by decide, fun op => by cases op <;> decide⟩
  | eq => exact ⟨.equal, by decide, fun op => by cases op <;> decide⟩
  | gt => exact ⟨.greater, by decide, fun op => by cases op <;> decide⟩

theorem admits_lessOrEqual (o : Ordering) :
    admits .lessOrEqual o = (admits .less o || admits .equal o) := by
  cases o <;> rfl

theorem admits_greaterOrEqual (o : Ordering) :
    admits .greaterOrEqual o = (admits .greater o || admits .equal o) := by
  cases o <;> rfl

end Query.Comparison

namespace Plan

variable {k : Family} {a b : Value κ ρ}

/-- All operators read off one order, that of sorting. -/
theorem holds_eq_admits (ha : a.Of k) (hb : b.Of k) (some_a : a.isNull = false)
    (some_b : b.isNull = false) (op : Comparison) : holds a op b = op.admits (a.sortOrder b) := by
  have equal : a.equals b = (a.sortOrder b).isEq := by
    rw [Bool.eq_iff_iff, Value.equals_iff_sortOrder ha hb, Ordering.isEq_iff_eq_eq]
  have ordered := Value.compare?_eq_sortOrder ha hb some_a some_b
  cases op with
  | equal => exact equal
  | notEqual => exact congrArg (!·) equal
  | _ =>
    unfold holds
    rw [ordered]
    rfl

/-- Of Null nothing is said by an order. -/
theorem holds_of_isNull (null : a.isNull = true ∨ b.isNull = true) {op : Comparison}
    (order : op.isEquality = false) : holds a op b = false := by
  have unordered := Value.compare?_eq_none null
  cases op with
  | equal | notEqual => cases order
  | _ =>
    unfold holds
    rw [unordered]
    rfl

end Plan

/-! ## The law -/

/-- Null and the values of one family stand in one total preorder, with Null below
everything. Its ties are the equal values, it is the order of any two operands that are not
Null, and each operator tells what this order tells. What an operand of Null and what
inequality say is the same for all values, and numbers of both widths are integers. -/
theorem comparison_is_coherent (k : Family) (a b c : Value κ ρ) (ha : a.Of k) (hb : b.Of k)
    (hc : c.Of k) :
    (a.sortOrder a = .eq ∧
      ((a.sortOrder b).isLE = true ∨ (b.sortOrder a).isLE = true) ∧
      ((a.sortOrder b).isLE = true → (b.sortOrder c).isLE = true →
        (a.sortOrder c).isLE = true)) ∧
    (∀ x : Value κ ρ, x.isNull = false →
      Value.null.sortOrder x = .lt ∧ x.sortOrder .null = .gt) ∧
    ((a.compare? b).isSome = true ↔ a.isNull = false ∧ b.isNull = false) ∧
    (a.sortOrder b = .eq ↔ a.equals b = true) ∧
    a.compare? b = (b.compare? a).map .swap ∧
    (a.isNull = false → b.isNull = false →
      a.compare? b = some (a.sortOrder b) ∧
      (∃! op, op ∈ [Comparison.less, .equal, .greater] ∧ Plan.holds a op b = true) ∧
      (Plan.holds a .lessOrEqual b = true ↔
        Plan.holds a .less b = true ∨ Plan.holds a .equal b = true) ∧
      (Plan.holds a .greaterOrEqual b = true ↔
        Plan.holds a .greater b = true ∨ Plan.holds a .equal b = true)) ∧
    (∀ x y : Value κ ρ, Plan.holds x .notEqual y = !Plan.holds x .equal y) ∧
    (∀ (x y : Value κ ρ) (op : Comparison), x.isNull = true ∨ y.isNull = true →
      op ∈ [.less, .lessOrEqual, .greater, .greaterOrEqual] → Plan.holds x op y = false) ∧
    (∀ (x y : Value κ ρ) (m n : Int), x.toInt? = some m → y.toInt? = some n →
      x.compare? y = some (compare m n) ∧ x.equals y = decide (m = n)) := by
  refine ⟨⟨Value.sortOrder_self ha, Value.sortOrder_total ha hb, Value.sortOrder_trans ha hb hc⟩,
    ?_, Value.isSome_compare?_iff ha hb, (Value.equals_iff_sortOrder ha hb).symm,
    Value.compare?_swap ha hb, ?_, fun _ _ => rfl, ?_, ?_⟩
  · intro x some_x
    exact ⟨Value.sortOrder_null_left some_x, Value.sortOrder_null_right some_x⟩
  · intro some_a some_b
    have tells := Plan.holds_eq_admits ha hb some_a some_b
    refine ⟨Value.compare?_eq_sortOrder ha hb some_a some_b, ?_, ?_, ?_⟩
    · simp only [tells]
      exact Comparison.existsUnique_admits _
    · rw [tells, tells, tells, Comparison.admits_lessOrEqual, Bool.or_eq_true]
    · rw [tells, tells, tells, Comparison.admits_greaterOrEqual, Bool.or_eq_true]
  · intro x y op null order
    refine Plan.holds_of_isNull null ?_
    cases op with
    | equal | notEqual => simp at order
    | _ => rfl
  · intro x y m n hx hy
    exact Value.compare?_of_toInt? hx hy

/-- Names that differ in case only, and Null, of which no order holds. -/
theorem names_are_ranked_whatever_their_case :
    let a : Value Empty Empty := .text "alice"
    let b : Value Empty Empty := .text "Bob"
    let c : Value Empty Empty := .text "bob"
    a.Of .text ∧ b.Of .text ∧ c.Of .text ∧ (a.sortOrder b).isLE = true ∧
      (b.sortOrder c).isLE = true ∧ (a.sortOrder c).isLE = true ∧ b.sortOrder c ≠ .eq ∧
      (∃! op, op ∈ [Comparison.less, .equal, .greater] ∧ Plan.holds a op b = true) ∧
      Plan.holds (.null : Value Empty Empty) .lessOrEqual (.int 0) = false := by
  intro a b c
  have ha : a.Of .text := .text _
  have hb : b.Of .text := .text _
  have hc : c.Of .text := .text _
  have first : (a.sortOrder b).isLE = true := by decide +kernel
  have second : (b.sortOrder c).isLE = true := by decide +kernel
  obtain ⟨⟨-, -, transitive⟩, -, -, -, -, operators, -, ofNull, -⟩ :=
    comparison_is_coherent .text a b c ha hb hc
  exact ⟨ha, hb, hc, first, second, transitive first second, by decide +kernel,
    (operators rfl rfl).2.1, ofNull .null (.int 0) .lessOrEqual (.inl rfl) (by decide)⟩

end CommitQuery
