-- The order of values. Null and the values of one family stand in a total preorder: each
-- family is ordered by a key of its values, and Null has no key and comes first.
import Mathlib.Data.List.Basic
import CommitQuery.Proofs.Value.Honest

namespace CommitQuery

variable {κ ρ : Type}

/-- The families of values that have an order. Numbers of both widths are one. -/
inductive Family
  | condition
  | number
  | text
  | time
deriving DecidableEq, Repr

/-- The family of the values of an orderable type. -/
def ValueType.family? : ValueType κ → Option Family
  | .bool => some .condition
  | .int | .long => some .number
  | .text => some .text
  | .timestamp => some .time
  | _ => none

theorem ValueType.family?_of_isOrderable {type : ValueType κ} (h : type.isOrderable = true) :
    ∃ k, type.family? = some k := by
  cases type with
  | bool | int | long | text | timestamp => exact ⟨_, rfl⟩
  | _ => cases h

namespace Value

/-- Null, or a value of a family. -/
inductive Of : Family → Value κ ρ → Prop
  | null {k : Family} : Of k .null
  | bool (b : Bool) : Of .condition (.bool b)
  | int (n : Int32) : Of .number (.int n)
  | long (n : Int64) : Of .number (.long n)
  | text (s : String) : Of .text (.text s)
  | timestamp (t : Timestamp) : Of .time (.timestamp t)

/-- What fits an orderable type is of its family. -/
theorem of_fits {S : Schema κ ρ} {type : ValueType κ} {k : Family} {v : Value κ ρ}
    (hv : S.Fits type v) (hk : type.family? = some k) : v.Of k := by
  obtain ⟨rfl | rfl, -⟩ := hv
  · exact .null
  · cases v with
    | null => exact .null
    | bool b =>
      cases hk
      exact .bool b
    | int n =>
      cases hk
      exact .int n
    | long n =>
      cases hk
      exact .long n
    | text s =>
      cases hk
      exact .text s
    | timestamp t =>
      cases hk
      exact .timestamp t
    | _ => cases hk

/-! ## Keys -/

/-- What is compared of two texts: their lower case, and then their code points. -/
def textKey? : Value κ ρ → Option (List (List Char))
  | .text s => some [Text.lowerList s.toList, s.toList]
  | _ => none

/-- What is compared of two timestamps: their seconds, and then their fractions of one. -/
def timeKey? : Value κ ρ → Option (List Int)
  | .timestamp t => some [t.seconds, t.nanos]
  | _ => none

theorem compare_pair {α : Type} [Ord α] (a b c d : α) :
    compare [a, b] [c, d] = (compare a c).then (compare b d) := by
  rw [List.compare_cons_cons, List.compare_cons_cons, List.compare_nil_nil, Ordering.then_eq]

theorem compare_ofNat (m n : Nat) : compare (m : Int) (n : Int) = compare m n := by
  show compareOfLessAndEq (m : Int) n = compareOfLessAndEq m n
  simp only [compareOfLessAndEq, Int.ofNat_lt, Int.ofNat_inj]

theorem compareTexts_eq (s t : String) :
    compareTexts s t = compare [Text.lowerList s.toList, s.toList]
      [Text.lowerList t.toList, t.toList] :=
  (compare_pair _ _ _ _).symm

theorem compare_timestamps (s t : Timestamp) :
    s.compare t = compare [s.seconds, (s.nanos : Int)] [t.seconds, (t.nanos : Int)] := by
  rw [compare_pair, compare_ofNat]
  rfl

/-- The values of a family are ordered as keys of some ordered type are. -/
theorem exists_key (k : Family) : ∃ (K : Type) (_ : Ord K) (_ : Std.TransOrd K)
    (key : Value κ ρ → K), ∀ a b, a.Of k → b.Of k → a.sortOrder b = compare (key a) (key b) := by
  cases k with
  | condition =>
    refine ⟨_, _, inferInstance, toBool?, fun a b ha hb => ?_⟩
    cases ha <;> cases hb <;> rfl
  | number =>
    refine ⟨_, _, inferInstance, toInt?, fun a b ha hb => ?_⟩
    cases ha <;> cases hb <;> rfl
  | text =>
    refine ⟨_, _, inferInstance, textKey?, fun a b ha hb => ?_⟩
    cases ha with
    | null => cases hb <;> rfl
    | text s =>
      cases hb with
      | null => rfl
      | text t => exact compareTexts_eq s t
  | time =>
    refine ⟨_, _, inferInstance, timeKey?, fun a b ha hb => ?_⟩
    cases ha with
    | null => cases hb <;> rfl
    | timestamp s =>
      cases hb with
      | null => rfl
      | timestamp t => exact compare_timestamps s t

/-! ## The preorder -/

variable {k : Family} {a b c : Value κ ρ}

/-- Two values the other way round have the reverse order. -/
theorem sortOrder_swap (ha : a.Of k) (hb : b.Of k) : a.sortOrder b = (b.sortOrder a).swap := by
  obtain ⟨K, _, _, key, h⟩ := exists_key (κ := κ) (ρ := ρ) k
  rw [h a b ha hb, h b a hb ha]
  exact Std.OrientedCmp.eq_swap

theorem sortOrder_trans (ha : a.Of k) (hb : b.Of k) (hc : c.Of k)
    (hab : (a.sortOrder b).isLE = true) (hbc : (b.sortOrder c).isLE = true) :
    (a.sortOrder c).isLE = true := by
  obtain ⟨K, _, _, key, h⟩ := exists_key (κ := κ) (ρ := ρ) k
  rw [h a b ha hb] at hab
  rw [h b c hb hc] at hbc
  rw [h a c ha hc]
  exact Std.TransCmp.isLE_trans hab hbc

end Value

end CommitQuery
