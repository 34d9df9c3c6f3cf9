-- Take and Skip with counts of either width. A count of the type `Int` is honoured whatever
-- it is. A `Long` is cut to 32 bits first, so one that does not fit stands for another number.
import CommitQuery.Proofs.Plan.Fusion
import CommitQuery.Proofs.Plan.Nameless
import CommitQuery.Proofs.Plan.Overloads

namespace CommitQuery

open Query

variable {κ ρ : Type}

/-- A slice of a sequence, with a count. -/
def Query.Expr.sliced (e : Expr) (s : Slice) (count : Expr) : Expr := .call e s.name [count]

namespace Plan

variable [DecidableEq κ] (S : Schema κ ρ) (root : Root κ ρ) (scope : Scope κ)
  (element : Option (ValueType κ))

/-- Where a part `e` of a query has some items, Take with a count gives the first of them, as
many as the number `n` says, and Skip gives the others. A negative number asks for none of the
items, and one beyond their number for all of them. -/
def HonoursCount (stack : List (Value κ ρ)) (e count : Expr) (item : ValueType κ)
    (items : List (Value κ ρ)) (n : Int) : Prop :=
  ∃ taken rest, taken ++ rest = items ∧ (taken.length : Int) = min (max n 0) items.length ∧
    resultIn S root scope element stack (e.sliced .take count) = .ok (.ofItems item taken) ∧
    resultIn S root scope element stack (e.sliced .skip count) = .ok (.ofItems item rest)

/-- The 32 bits that a count is used with: those of an `Int`, or the lower ones of a `Long`. -/
inductive CountsAs (stack : List (Value κ ρ)) (count : Plan κ ρ) : Int32 → Prop
  | int {n : Int32} (type : count.type S = .int) (value : outcome S stack count = .ok (.int n)) :
      CountsAs stack count n
  | long {k : Int64} (type : count.type S = .long)
      (value : outcome S stack count = .ok (.long k)) : CountsAs stack count k.toInt32

variable {S root scope element} {stack items : List (Value κ ρ)} {env : Environment κ ρ}
  {source count : Plan κ ρ} {item : ValueType κ} {e c : Expr} {n : Int32}

/-! ## Counts -/

omit [DecidableEq κ] in
theorem CountsAs.isNumeric (h : CountsAs S stack count n) : (count.type S).isNumeric = true := by
  cases h with
  | int type | long type => rw [type]; rfl

theorem CountsAs.outcome_toWidth (h : CountsAs S stack count n) :
    outcome S stack (count.toWidth S .int) = .ok (.int n) := by
  cases h with
  | int type value =>
    have own : count.type S = Width.int.type := type
    rw [toWidth, if_pos own, value]
  | long type value =>
    have narrower : count.type S ≠ Width.int.type := by rw [type]; nofun
    rw [toWidth, if_neg narrower, outcome, run_convert]
    exact congrArg (Except.map (changeWidth .int)) value

/-- The lower 32 bits of a number that fits in them are the number. -/
theorem toInt_toInt32_of_fits {k : Int64} (low : -2 ^ 31 ≤ k.toInt) (high : k.toInt < 2 ^ 31) :
    k.toInt32.toInt = k.toInt := by
  rw [Int64.toInt_toInt32]
  exact Int.bmod_eq_of_le (by omega) (by omega)

/-! ## Slices -/

theorem compileIn_sliced (he : compileIn S root scope element e = .ok source)
    (ts : source.type S = .sequence item) (hc : compileIn S root scope (some item) c = .ok count)
    (numeric : (count.type S).isNumeric = true) (s : Slice) :
    compileIn S root scope element (e.sliced s c) =
      .ok (.slice source s (count.toWidth S .int)) := by
  have value : c.isLambda = false := by
    rw [← (wellFormed_compileIn hc).2]
    exact isLambda_of_type (S := S) rfl fun a r same => by rw [same] at numeric; cases numeric
  refine (compileIn_operator he ts (.slice s) [c]).trans ?_
  rw [compileOperator_single value]
  simp only [hc, bind, Except.bind, ofCount]
  cases type : count.type S with
  | int | long => rfl
  | _ => rw [type] at numeric; cases numeric

section Slices

variable (he : compileIn S root scope element e = .ok source)
  (ts : source.type S = .sequence item) (hc : compileIn S root scope (some item) c = .ok count)
  (hm : Matches scope stack env) (hs : Supplies S stack source items)
  (h : CountsAs S stack count n)
include he ts hc hm hs h

/-- A slice keeps or drops as many items as the 32 bits of its count say. -/
theorem resultIn_sliced (s : Slice) : resultIn S root scope element stack (e.sliced s c) =
    .ok (.ofItems item (cut s n.toInt.toNat items)) := by
  have compiled := compileIn_sliced he ts hc h.isNumeric s
  have cutting := (wellFormed_compileIn compiled).1.outcome_cut hm hs h.outcome_toWidth rfl
  rw [resultIn_of_compiled compiled, cutting, ts]
  rfl

/-- A count is honoured as a number if it is one with its 32 bits, or if both ask for the same
items of this list. -/
theorem honoursCount_iff (k : Int) : HonoursCount S root scope element stack e c item items k ↔
    min (max n.toInt 0) items.length = min (max k 0) items.length := by
  have took := resultIn_sliced he ts hc hm hs h .take
  have skipped := resultIn_sliced he ts hc hm hs h .skip
  have length : ((items.take n.toInt.toNat).length : Int) = min (max n.toInt 0) items.length := by
    rw [List.length_take]
    omega
  constructor
  · rintro ⟨taken, rest, _, hlength, htake, _⟩
    rw [took] at htake
    cases htake
    exact length.symm.trans hlength
  · intro same
    exact ⟨_, _, List.take_append_drop _ _, length.trans same, took, skipped⟩

end Slices

/-! ## The law -/

/-- A part of a query that gives items, in any scope, and a count of the type `Long` that comes
to `k`. Take and Skip honour what is left of `k` in 32 bits. They honour `k` itself if it fits
in them, and then do just what they do with an `Int` of the same value. Otherwise they honour
`k` only by chance: a large one if its 32 bits ask for all the items as well, and a negative
one if they ask for none. -/
theorem a_long_count_is_honoured_if_it_fits (S : Schema κ ρ) (root : Root κ ρ) (scope : Scope κ)
    (element : Option (ValueType κ)) (e c : Expr) (source count : Plan κ ρ) (item : ValueType κ)
    (he : compileIn S root scope element e = .ok source) (ts : source.type S = .sequence item)
    (hc : compileIn S root scope (some item) c = .ok count) (tc : count.type S = .long)
    (stack items : List (Value κ ρ)) (env : Environment κ ρ) (hm : Matches scope stack env)
    (hs : Supplies S stack source items) (k : Int64) (hk : outcome S stack count = .ok (.long k)) :
    let low := k.toInt.bmod (2 ^ 32)
    let fits := -2 ^ 31 ≤ k.toInt ∧ k.toInt < 2 ^ 31
    HonoursCount S root scope element stack e c item items low ∧
      (HonoursCount S root scope element stack e c item items k.toInt ↔
        fits ∨ (2 ^ 31 ≤ k.toInt ∧ (items.length : Int) ≤ max low 0) ∨
          (k.toInt < -2 ^ 31 ∧ min (max low 0) (items.length : Int) = 0)) ∧
      (fits → ∀ c' count' n, compileIn S root scope (some item) c' = .ok count' →
        count'.type S = .int → outcome S stack count' = .ok (.int n) → n.toInt = k.toInt →
        ∀ s, resultIn S root scope element stack (e.sliced s c) =
          resultIn S root scope element stack (e.sliced s c')) := by
  intro low fits
  have counts : CountsAs S stack count k.toInt32 := .long tc hk
  have bits : k.toInt32.toInt = low := Int64.toInt_toInt32 k
  have honours (n : Int) := honoursCount_iff he ts hc hm hs counts n
  rw [bits] at honours
  have atLeast : -2 ^ 31 ≤ low := bits ▸ k.toInt32.le_toInt
  have below : low < 2 ^ 31 := bits ▸ k.toInt32.toInt_lt
  have same : fits → low = k.toInt := fun ⟨least, most⟩ =>
    bits ▸ toInt_toInt32_of_fits least most
  refine ⟨(honours low).mpr rfl, (honours k.toInt).trans ?_, ?_⟩
  · by_cases small : fits
    · simp [small, same small]
    · omega
  · intro small c' count' n hc' tc' hn value s
    have counts' : CountsAs S stack count' n := .int tc' hn
    rw [resultIn_sliced he ts hc hm hs counts s, resultIn_sliced he ts hc' hm hs counts' s, bits,
      same small, value]

/-- Parcels, whose size is a `Long`. -/
def parcels : Schema Unit Int64 where
  kindOf _ := ()
  nameOf _ := "Parcel"
  members _ := [{
    name := "Size", type := .long
    get := fun
      | .record size _ => .long size
      | _ => .null }]
  methods _ := []

/-- Three parcels, the first one of a given size. -/
def threeParcels (size : Int64) : Root Unit Int64 :=
  ⟨"Parcels", .record (), [.ofRecord size, .ofRecord 7, .ofRecord 1]⟩

/-- The size of the first parcel. -/
def firstSize : Expr := .member (.call (.name "Parcels") "First" []) "Size"

section Parcels

variable (size : Int64)

theorem supplies_threeParcels :
    Supplies parcels [] (.constant (threeParcels size).value) (threeParcels size).items :=
  ⟨_, _, rfl⟩

theorem outcome_firstSize :
    ∃ count, compileIn parcels (threeParcels size) [] (some (.record ())) firstSize = .ok count ∧
      count.type parcels = .long ∧ outcome parcels [] count = .ok (.long size) :=
  ⟨_, by cbv, by cbv, by cbv⟩

theorem honoursCount_firstSize (n : Int) :
    HonoursCount parcels (threeParcels size) [] none [] (.name "Parcels") firstSize (.record ())
        (threeParcels size).items n ↔
      min (max size.toInt32.toInt 0) 3 = min (max n 0) 3 := by
  obtain ⟨count, hc, tc, hk⟩ := outcome_firstSize size
  exact honoursCount_iff (by cbv) rfl hc .nil (supplies_threeParcels size) (.long tc hk) n

end Parcels

theorem a_size_of_two_takes_two_parcels :
    let root := threeParcels 2
    let all : Plan Unit Int64 := .constant root.value
    ∃ count, compileIn parcels root [] none (.name "Parcels") = .ok all ∧
      all.type parcels = .sequence (.record ()) ∧
      compileIn parcels root [] (some (.record ())) firstSize = .ok count ∧
      count.type parcels = .long ∧ Matches (κ := Unit) (ρ := Int64) [] [] [] ∧
      Supplies parcels [] all root.items ∧ outcome parcels [] count = .ok (.long 2) ∧
      HonoursCount parcels root [] none [] (.name "Parcels") firstSize (.record ()) root.items
        2 := by
  intro root all
  have he : compileIn parcels root [] none (.name "Parcels") = .ok all := by cbv
  obtain ⟨count, hc, tc, hk⟩ := outcome_firstSize 2
  have law := a_long_count_is_honoured_if_it_fits parcels root [] none (.name "Parcels") firstSize
    all count (.record ()) he rfl hc tc [] root.items [] .nil (supplies_threeParcels 2) 2 hk
  exact ⟨count, he, rfl, hc, tc, .nil, supplies_threeParcels 2, hk,
    law.2.1.mpr (.inl (by decide))⟩

/-- Two sizes whose lower 32 bits are 1: the larger one asks for all parcels, the negative one
for none, and each of them takes one. -/
theorem a_size_beyond_32_bits_takes_one_parcel :
    let large := threeParcels 4294967297
    let negative := threeParcels (-4294967295)
    let query := Expr.sliced (.name "Parcels") .take firstSize
    (resultIn parcels large [] none [] query =
        .ok (.ofItems (.record ()) [.ofRecord 4294967297]) ∧
      ¬ HonoursCount parcels large [] none [] (.name "Parcels") firstSize (.record ()) large.items
        4294967297) ∧
    resultIn parcels negative [] none [] query =
        .ok (.ofItems (.record ()) [.ofRecord (-4294967295)]) ∧
      ¬ HonoursCount parcels negative [] none [] (.name "Parcels") firstSize (.record ())
        negative.items (-4294967295) := by
  intro large negative query
  refine ⟨⟨by cbv, ?_⟩, by cbv, ?_⟩
  · rw [honoursCount_firstSize]
    decide
  · rw [honoursCount_firstSize]
    decide

end Plan

end CommitQuery
