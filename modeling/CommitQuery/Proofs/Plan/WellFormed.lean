-- What the compiler promises about a plan: every parameter stands in the slot of
-- its lambda, every part has a type that its place allows, and a lambda stands
-- nowhere but among the arguments of a method.
import CommitQuery.Plan.Compile
import CommitQuery.Proofs.Plan.Walk

namespace CommitQuery

open Query

variable {κ ρ : Type}

namespace Plan

/-! ## The promise -/

def isLambda : Plan κ ρ → Bool
  | .lambda _ _ => true
  | _ => false

/-- The type of a lambda is a function type, so a plan of another type is none. -/
theorem isLambda_of_type {S : Schema κ ρ} {p : Plan κ ρ} {type : ValueType κ}
    (h : p.type S = type) (ht : ∀ a r, type ≠ .function a r) : p.isLambda = false := by
  cases p with
  | lambda b body => exact absurd h.symm (ht _ _)
  | _ => rfl

variable [DecidableEq κ] (S : Schema κ ρ) (root : Root κ ρ)

/-- Arguments that fit parameters: each has the type of its parameter or is Null. -/
def Passable (arguments : List (Plan κ ρ)) (parameters : List (ValueType κ)) : Prop :=
  List.Forall₂ (fun a type => a.type S = type ∨ a.type S = .null) arguments parameters

/-- The plans that the compiler gives within a scope. -/
inductive WellFormed : Scope κ → Plan κ ρ → Prop
  | root {scope : Scope κ} : WellFormed scope (.constant root.value)
  | text {scope : Scope κ} (s : String) : WellFormed scope (.constant (.text s))
  | number {scope : Scope κ} (n : Int32) : WellFormed scope (.constant (.int n))
  | parameter {scope : Scope κ} {b : Binder κ} (bound : scope.lookup? b.name = some b) :
      WellFormed scope (.parameter b)
  | member {scope : Scope κ} {target : Plan κ ρ} {m : Member κ ρ}
      (ht : WellFormed scope target) (hm : m ∈ S.membersOf (target.type S)) :
      WellFormed scope (.member target m)
  | invoke {scope : Scope κ} {target : Plan κ ρ} {m : Method κ ρ} {arguments : List (Plan κ ρ)}
      (ht : WellFormed scope target) (hm : m ∈ S.methodsOf (target.type S))
      (ha : ∀ a ∈ arguments, WellFormed scope a) (fits : Passable S arguments m.parameters) :
      WellFormed scope (.invoke target m arguments)
  | convert {scope : Scope κ} {p : Plan κ ρ} (w : Width) (hp : WellFormed scope p)
      (numeric : (p.type S).isNumeric = true) : WellFormed scope (.convert p w)
  | compare {scope : Scope κ} {left right : Plan κ ρ} (c : Comparison)
      (hl : WellFormed scope left) (hr : WellFormed scope right)
      (vl : left.isLambda = false) (vr : right.isLambda = false)
      (fits : comparable c (left.type S) (right.type S) = true) :
      WellFormed scope (.compare left c right)
  | logical {scope : Scope κ} {left right : Plan κ ρ} (c : Connective)
      (hl : WellFormed scope left) (hr : WellFormed scope right)
      (tl : left.type S = .bool) (tr : right.type S = .bool) :
      WellFormed scope (.logical left c right)
  | lambda {scope : Scope κ} {x : String} {type : ValueType κ} {body : Plan κ ρ}
      (hb : WellFormed (scope.bind x type :: scope) body) (vb : body.isLambda = false) :
      WellFormed scope (.lambda (scope.bind x type) body)
  | filter {scope : Scope κ} {source body : Plan κ ρ} {x : String} {item : ValueType κ}
      (hs : WellFormed scope source) (ts : source.type S = .sequence item)
      (hb : WellFormed (scope.bind x item :: scope) body) (tb : body.type S = .bool) :
      WellFormed scope (.filter source (scope.bind x item) body)
  | select {scope : Scope κ} {source body : Plan κ ρ} {x : String} {item : ValueType κ}
      (hs : WellFormed scope source) (ts : source.type S = .sequence item)
      (hb : WellFormed (scope.bind x item :: scope) body) (vb : body.isLambda = false) :
      WellFormed scope (.select source (scope.bind x item) body)
  | sort {scope : Scope κ} {source body : Plan κ ρ} {x : String} {item : ValueType κ}
      (descending : Bool) (hs : WellFormed scope source) (ts : source.type S = .sequence item)
      (hb : WellFormed (scope.bind x item :: scope) body)
      (tb : (body.type S).isOrderable = true) :
      WellFormed scope (.sort source descending (scope.bind x item) body)
  | slice {scope : Scope κ} {source count : Plan κ ρ} {item : ValueType κ} (s : Slice)
      (hs : WellFormed scope source) (ts : source.type S = .sequence item)
      (hc : WellFormed scope count) (tc : count.type S = .int) :
      WellFormed scope (.slice source s count)
  | find {scope : Scope κ} {source : Plan κ ρ} {item : ValueType κ} (finder : Finder)
      (hs : WellFormed scope source) (ts : source.type S = .sequence item) :
      WellFormed scope (.find source finder)
  | findWhere {scope : Scope κ} {source body : Plan κ ρ} {x : String} {item : ValueType κ}
      (finder : Finder) (hs : WellFormed scope source) (ts : source.type S = .sequence item)
      (hb : WellFormed (scope.bind x item :: scope) body) (tb : body.type S = .bool) :
      WellFormed scope (.findWhere source finder (scope.bind x item) body)

variable {S root} {scope : Scope κ}

/-! ## Widths -/

theorem type_toWidth (p : Plan κ ρ) (w : Width) : (p.toWidth S w).type S = w.type := by
  unfold toWidth
  split
  · assumption
  · rfl

theorem isLambda_toWidth {p : Plan κ ρ} (w : Width) (h : p.isLambda = false) :
    (p.toWidth S w).isLambda = false := by
  unfold toWidth
  split
  · exact h
  · rfl

theorem WellFormed.toWidth {p : Plan κ ρ} (h : WellFormed S root scope p) (w : Width)
    (numeric : (p.type S).isNumeric = true) : WellFormed S root scope (p.toWidth S w) := by
  unfold Plan.toWidth
  split
  · exact h
  · exact .convert w h numeric

/-- An accepted argument, once coerced, fits its parameter. -/
theorem type_coerce {a : Plan κ ρ} {type : ValueType κ} (h : accepts type (a.type S) = true) :
    (coerce S a type).type S = type ∨ (coerce S a type).type S = .null := by
  simp only [accepts, Bool.or_eq_true, Bool.and_eq_true, decide_eq_true_eq] at h
  unfold coerce
  rcases h with (rfl | ⟨rfl, ha⟩) | ha
  · left
    split
    · split <;> simp_all [type_toWidth, Width.type]
    · rfl
  · simp [ha, ValueType.isNumeric, type_toWidth, Width.type]
  · simp [ha, ValueType.isNumeric]

theorem WellFormed.coerce {a : Plan κ ρ} (h : WellFormed S root scope a) (type : ValueType κ) :
    WellFormed S root scope (coerce S a type) := by
  unfold Plan.coerce
  split
  · rename_i numeric
    split
    · exact h.toWidth .int numeric
    · exact h.toWidth .long numeric
    · exact h
  · exact h

/-! ## The parts of the compiler -/

theorem isLambda_of_requireValue {place : LambdaPlace} {e : Expr} {u : Unit}
    (h : requireValue place e = .ok u) : e.isLambda = false := by
  unfold requireValue at h
  split at h
  · cases h
  · simp_all

theorem wellFormed_ofName {name : String} {p : Plan κ ρ} (h : ofName root scope name = .ok p) :
    WellFormed S root scope p ∧ p.isLambda = false := by
  unfold ofName at h
  split at h
  · rename_i b hb
    cases h
    have hname : b.name = name := by simpa using List.find?_some hb
    exact ⟨.parameter (hname ▸ hb), rfl⟩
  · split at h
    · cases h
      exact ⟨.root, rfl⟩
    · cases h

theorem wellFormed_ofMember {target p : Plan κ ρ} {name : String}
    (ht : WellFormed S root scope target) (h : ofMember S target name = .ok p) :
    WellFormed S root scope p ∧ p.isLambda = false := by
  unfold ofMember at h
  split at h
  · rename_i m hm
    cases h
    exact ⟨.member ht (List.mem_of_find?_eq_some hm), rfl⟩
  · cases h

theorem wellFormed_widen {left right : Plan κ ρ}
    (hl : WellFormed S root scope left) (hr : WellFormed S root scope right)
    (vl : left.isLambda = false) (vr : right.isLambda = false) :
    (WellFormed S root scope (widen S left right).1 ∧ (widen S left right).1.isLambda = false) ∧
      WellFormed S root scope (widen S left right).2 ∧
        (widen S left right).2.isLambda = false := by
  unfold widen
  split
  · rename_i tl _
    exact ⟨⟨hl.toWidth .long (by rw [tl]; rfl), isLambda_toWidth _ vl⟩, hr, vr⟩
  · rename_i _ tr
    exact ⟨⟨hl, vl⟩, hr.toWidth .long (by rw [tr]; rfl), isLambda_toWidth _ vr⟩
  · exact ⟨⟨hl, vl⟩, hr, vr⟩

theorem wellFormed_ofOperator {left right p : Plan κ ρ} {op : Operator}
    (hl : WellFormed S root scope left) (hr : WellFormed S root scope right)
    (vl : left.isLambda = false) (vr : right.isLambda = false)
    (h : ofOperator S left op right = .ok p) :
    WellFormed S root scope p ∧ p.isLambda = false := by
  unfold ofOperator at h
  split at h
  · split at h
    · rename_i types
      cases h
      exact ⟨.logical _ hl hr types.1 types.2, rfl⟩
    · cases h
  · rename_i c
    obtain ⟨⟨hl, vl⟩, hr, vr⟩ := wellFormed_widen hl hr vl vr
    dsimp only at h
    split at h
    · rename_i fits
      cases h
      exact ⟨.compare c hl hr vl vr fits, rfl⟩
    · cases h

theorem acceptsAll_self (types : List (ValueType κ)) :
    acceptsAll types types = true := by
  induction types with
  | nil => rfl
  | cons type more ih =>
    simp only [acceptsAll, List.zip_cons_cons, List.all_cons, Bool.and_eq_true]
    exact ⟨by simp [accepts], ih⟩

/-- The chosen method is a candidate that accepts the arguments. -/
theorem chooseMethod?_some {candidates : List (Method κ ρ)} {types : List (ValueType κ)}
    {m : Method κ ρ} (h : chooseMethod? candidates types = some m) :
    m ∈ candidates ∧ acceptsAll m.parameters types = true := by
  unfold chooseMethod? at h
  rcases Option.or_eq_some_iff.mp h with h | ⟨-, h⟩
  · have hm : m.parameters = types := by simpa using List.find?_some h
    refine ⟨List.mem_of_find?_eq_some h, ?_⟩
    exact hm ▸ acceptsAll_self m.parameters
  · exact ⟨List.mem_of_find?_eq_some h, by simpa using List.find?_some h⟩

theorem passable_coerce {arguments : List (Plan κ ρ)} {parameters : List (ValueType κ)}
    (hlen : parameters.length = arguments.length)
    (h : acceptsAll parameters (arguments.map (·.type S)) = true) :
    Passable S (arguments.zipWith (coerce S) parameters) parameters := by
  induction arguments generalizing parameters with
  | nil =>
    rw [List.length_eq_zero_iff.mp hlen]
    exact .nil
  | cons a more ih =>
    cases parameters with
    | nil => cases hlen
    | cons type rest =>
      simp only [acceptsAll, List.map_cons, List.zip_cons_cons, List.all_cons,
        Bool.and_eq_true] at h
      exact .cons (type_coerce h.1) (ih (by simpa using hlen) h.2)

theorem wellFormed_ofCall {target p : Plan κ ρ} {name : String} {arguments : List (Plan κ ρ)}
    (ht : WellFormed S root scope target) (ha : ∀ a ∈ arguments, WellFormed S root scope a)
    (h : ofCall S target name arguments = .ok p) :
    WellFormed S root scope p ∧ p.isLambda = false := by
  unfold ofCall at h
  split at h
  · cases h
  · rename_i first more found
    split at h
    · rename_i m hm
      cases h
      obtain ⟨mem, accepted⟩ := chooseMethod?_some hm
      rw [← found] at mem
      simp only [Schema.findMethods, List.mem_filter, Bool.and_eq_true, beq_iff_eq] at mem
      refine ⟨.invoke ht mem.1 ?_ (passable_coerce mem.2.2 accepted), rfl⟩
      intro a hmem
      rw [← List.map_uncurry_zip_eq_zipWith, List.mem_map] at hmem
      obtain ⟨⟨b, type⟩, hb, rfl⟩ := hmem
      exact (ha b (List.of_mem_zip hb).1).coerce type
    · cases h

theorem wellFormed_ofLambda {source body p : Plan κ ρ} {x : String} {item : ValueType κ}
    {op : SequenceOperator} (hs : WellFormed S root scope source)
    (ts : source.type S = .sequence item)
    (hb : WellFormed S root (scope.bind x item :: scope) body) (vb : body.isLambda = false)
    (h : ofLambda S source item op (scope.bind x item) body = .ok p) :
    WellFormed S root scope p ∧ p.isLambda = false := by
  cases op with
  | filter =>
    simp only [ofLambda] at h
    split at h
    · rename_i tb
      cases h
      exact ⟨.filter hs ts hb tb, rfl⟩
    · cases h
  | select =>
    cases h
    exact ⟨.select hs ts hb vb, rfl⟩
  | sort descending =>
    simp only [ofLambda] at h
    split at h
    · rename_i tb
      cases h
      exact ⟨.sort descending hs ts hb tb, rfl⟩
    · cases h
  | find finder =>
    simp only [ofLambda] at h
    split at h
    · rename_i tb
      cases h
      exact ⟨.findWhere finder hs ts hb tb, rfl⟩
    · cases h
  | slice s => cases h

theorem wellFormed_ofCount {source count p : Plan κ ρ} {item : ValueType κ} {s : Slice}
    (hs : WellFormed S root scope source) (ts : source.type S = .sequence item)
    (hc : WellFormed S root scope count) (h : ofCount S source item s count = .ok p) :
    WellFormed S root scope p ∧ p.isLambda = false := by
  unfold ofCount at h
  split at h
  · rename_i tc
    cases h
    exact ⟨.slice s hs ts (hc.toWidth .int (by rw [tc]; rfl)) (type_toWidth count .int), rfl⟩
  · rename_i tc
    cases h
    exact ⟨.slice s hs ts (hc.toWidth .int (by rw [tc]; rfl)) (type_toWidth count .int), rfl⟩
  · cases h

/-! ## Whole queries -/

mutual

/-- The compiler keeps its promise, and gives a lambda for a lambda only. -/
theorem wellFormed_compileIn {scope : Scope κ} {element : Option (ValueType κ)} {e : Expr}
    {p : Plan κ ρ} (h : compileIn S root scope element e = .ok p) :
    WellFormed S root scope p ∧ p.isLambda = e.isLambda := by
  cases e with
  | name s => exact wellFormed_ofName h
  | text s =>
    cases h
    exact ⟨.text s, rfl⟩
  | number n =>
    cases h
    exact ⟨.number n, rfl⟩
  | member target field =>
    simp only [compileIn, bind_eq_ok] at h
    obtain ⟨_, _, t, ht, h⟩ := h
    exact wellFormed_ofMember (wellFormed_compileIn ht).1 h
  | call target method arguments =>
    simp only [compileIn, bind_eq_ok] at h
    obtain ⟨_, _, source, hs, h⟩ := h
    have source_ok := (wellFormed_compileIn hs).1
    split at h
    · rename_i item ts
      split at h
      · cases h
      · exact wellFormed_compileOperator source_ok ts h
    · obtain ⟨ps, ha, h⟩ := bind_eq_ok.mp h
      exact wellFormed_ofCall source_ok (wellFormed_compileAll ha) h
  | lambda x body =>
    simp only [compileIn, bind_eq_ok] at h
    obtain ⟨_, value, b, hb, h⟩ := h
    cases h
    obtain ⟨hb, same⟩ := wellFormed_compileIn hb
    exact ⟨.lambda hb (same.trans (isLambda_of_requireValue value)), rfl⟩
  | binary left op right =>
    simp only [compileIn, bind_eq_ok] at h
    obtain ⟨_, vl, l, hl, _, vr, r, hr, h⟩ := h
    obtain ⟨hl, samel⟩ := wellFormed_compileIn hl
    obtain ⟨hr, samer⟩ := wellFormed_compileIn hr
    exact wellFormed_ofOperator hl hr (samel.trans (isLambda_of_requireValue vl))
      (samer.trans (isLambda_of_requireValue vr)) h
termination_by sizeOf e

theorem wellFormed_compileAll {scope : Scope κ} {element : Option (ValueType κ)} {es : List Expr}
    {ps : List (Plan κ ρ)} (h : compileAll S root scope element es = .ok ps) :
    ∀ p ∈ ps, WellFormed S root scope p := by
  cases es with
  | nil =>
    cases h
    simp
  | cons e more =>
    simp only [compileAll, bind_eq_ok] at h
    obtain ⟨p, hp, rest, hrest, h⟩ := h
    cases h
    intro q hq
    rcases List.mem_cons.mp hq with rfl | hq
    · exact (wellFormed_compileIn hp).1
    · exact wellFormed_compileAll hrest q hq
termination_by sizeOf es

theorem wellFormed_compileOperator {scope : Scope κ} {source p : Plan κ ρ} {item : ValueType κ}
    {op : SequenceOperator} {arguments : List Expr} (hs : WellFormed S root scope source)
    (ts : source.type S = .sequence item)
    (h : compileOperator S root scope source item op arguments = .ok p) :
    WellFormed S root scope p ∧ p.isLambda = false := by
  unfold compileOperator at h
  split at h
  · split at h
    · rename_i finder
      cases h
      exact ⟨.find finder hs ts, rfl⟩
    · cases h
  · rename_i x body
    split at h
    · cases h
    · simp only [bind_eq_ok] at h
      obtain ⟨_, value, b, hb, h⟩ := h
      obtain ⟨hb, same⟩ := wellFormed_compileIn hb
      exact wellFormed_ofLambda hs ts hb (same.trans (isLambda_of_requireValue value)) h
  · rename_i argument _
    split at h
    · obtain ⟨count, hc, h⟩ := bind_eq_ok.mp h
      exact wellFormed_ofCount hs ts (wellFormed_compileIn hc).1 h
    · cases h
  · cases h
termination_by sizeOf arguments

end

theorem wellFormed_compile {e : Expr} {p : Plan κ ρ} (h : compile S root e = .ok p) :
    WellFormed S root [] p ∧ p.isLambda = false := by
  obtain ⟨_, value, h⟩ := bind_eq_ok.mp h
  obtain ⟨hp, same⟩ := wellFormed_compileIn h
  exact ⟨hp, same.trans (isLambda_of_requireValue value)⟩

end Plan

end CommitQuery
