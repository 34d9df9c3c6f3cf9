-- Why a run can fail. Over an honest schema the failure of a compiled query has a
-- cause in the data: some part of the plan is reached whose source, target or count
-- is Null, whose sequence has no item to give, or whose method refuses.
import CommitQuery.Proofs.Plan.Typing

namespace CommitQuery.Plan

open Query

variable {κ ρ : Type}

/-! ## Parts of a plan -/

/-- The parts that run on the same stack as the plan itself. -/
def operands : Plan κ ρ → List (Plan κ ρ)
  | .constant _ | .parameter _ | .lambda _ _ => []
  | .member target _ => [target]
  | .invoke target _ arguments => target :: arguments
  | .convert inner _ => [inner]
  | .compare left _ right => [left, right]
  | .logical left _ right => [left, right]
  | .filter source _ _ => [source]
  | .select source _ _ => [source]
  | .sort source _ _ _ => [source]
  | .slice source _ count => [source, count]
  | .find source _ => [source]
  | .findWhere source _ _ _ => [source]

/-- The operator that a plan calls, and what it is called on. -/
def operator? : Plan κ ρ → Option (String × Plan κ ρ)
  | .filter source _ _ => some (SequenceOperator.filter.name, source)
  | .select source _ _ => some (SequenceOperator.select.name, source)
  | .sort source descending _ _ => some ((SequenceOperator.sort descending).name, source)
  | .slice source s _ => some (s.name, source)
  | .find source finder => some (finder.name, source)
  | .findWhere source finder _ _ => some (finder.name, source)
  | _ => none

/-- The lambda that an operator calls for the items of its source. -/
def lambda? : Plan κ ρ → Option (Plan κ ρ × Binder κ × Plan κ ρ)
  | .filter source b body => some (source, b, body)
  | .select source b body => some (source, b, body)
  | .sort source _ b body => some (source, b, body)
  | .findWhere source _ b body => some (source, b, body)
  | _ => none

variable (S : Schema κ ρ)

/-- What a plan comes to on a stack. -/
def outcome (stack : List (Value κ ρ)) (p : Plan κ ρ) : Except RuntimeError (Value κ ρ) :=
  ((evaluate S p).run stack).1

/-- The plans that the run of a plan may come to, with their stacks: its operands, and the
body of its lambda with an item of the source in the lambda's slot. -/
inductive Reaches : List (Value κ ρ) → Plan κ ρ → List (Value κ ρ) → Plan κ ρ → Prop
  | here {stack : List (Value κ ρ)} {p : Plan κ ρ} : Reaches stack p stack p
  | operand {stack after : List (Value κ ρ)} {p q r : Plan κ ρ} (hq : q ∈ p.operands)
      (h : Reaches stack q after r) : Reaches stack p after r
  | call {stack after items : List (Value κ ρ)} {p source body r : Plan κ ρ} {b : Binder κ}
      {element : ValueType κ} {origin : Option Nat} {item : Value κ ρ}
      (hp : p.lambda? = some (source, b, body))
      (hs : outcome S stack source = .ok (.sequence element items origin)) (hi : item ∈ items)
      (h : Reaches (stack.take b.slot ++ [item]) body after r) : Reaches stack p after r

/-- What makes a plan fail by itself, after its operands had values. -/
inductive Cause (stack : List (Value κ ρ)) : Plan κ ρ → RuntimeError → Prop
  | memberOfNull {target : Plan κ ρ} {m : Member κ ρ} (ht : outcome S stack target = .ok .null) :
      Cause stack (.member target m) (.memberOfNull m.name)
  | methodOfNull {target : Plan κ ρ} {m : Method κ ρ} {arguments : List (Plan κ ρ)}
      (ht : outcome S stack target = .ok .null) :
      Cause stack (.invoke target m arguments) (.methodOfNull m.name)
  | operatorOfNull {p source : Plan κ ρ} {operator : String}
      (hp : p.operator? = some (operator, source)) (hs : outcome S stack source = .ok .null) :
      Cause stack p (.operatorOfNull operator)
  | noElement {source : Plan κ ρ} {element : ValueType κ} {origin : Option Nat}
      (hs : outcome S stack source = .ok (.sequence element [] origin)) :
      Cause stack (.find source .first) .noElement
  | noMatch {source body : Plan κ ρ} {b : Binder κ} {element : ValueType κ}
      {items : List (Value κ ρ)} {origin : Option Nat}
      (hs : outcome S stack source = .ok (.sequence element items origin))
      (hb : ∀ item ∈ items, ∃ v, outcome S (stack.take b.slot ++ [item]) body = .ok v ∧
        truth v = false) :
      Cause stack (.findWhere source .first b body) .noMatch
  | countOfNull {source count : Plan κ ρ} {s : Slice} (hc : outcome S stack count = .ok .null) :
      Cause stack (.slice source s count) (.badCount (S.shown (.null : Value κ ρ)))
  | refused {target : Plan κ ρ} {m : Method κ ρ} {arguments : List (Plan κ ρ)}
      {receiver : Value κ ρ} {values : List (Value κ ρ)} {message : String}
      (hm : m ∈ S.methodsOf (S.typeOf receiver)) (ht : outcome S stack target = .ok receiver)
      (ha : List.Forall₂ (fun a v => outcome S stack a = .ok v) arguments values)
      (hr : m.call receiver values = .error message) :
      Cause stack (.invoke target m arguments) (.methodFailed m.name message)
  | lambdaPassed {target body : Plan κ ρ} {m : Method κ ρ} {arguments : List (Plan κ ρ)}
      {b : Binder κ}
      (ha : (.lambda b body, .function b.type (body.type S)) ∈ arguments.zip m.parameters) :
      Cause stack (.invoke target m arguments) (.lambdaAsValue b.name)

/-- A failure that comes from some part of a plan, which fails so and has a cause to. -/
def Explained (stack : List (Value κ ρ)) (p : Plan κ ρ) (e : RuntimeError) : Prop :=
  ∃ after q, Reaches S stack p after q ∧ outcome S after q = .error e ∧ Cause S after q e

variable {S} {stack : List (Value κ ρ)} {e : RuntimeError}

theorem Cause.explained {p : Plan κ ρ} (h : Cause S stack p e)
    (fails : outcome S stack p = .error e) : Explained S stack p e :=
  ⟨stack, p, .here, fails, h⟩

theorem Explained.operand {p q : Plan κ ρ} (h : Explained S stack q e) (hq : q ∈ p.operands) :
    Explained S stack p e := by
  obtain ⟨after, r, reaches, because⟩ := h
  exact ⟨after, r, .operand hq reaches, because⟩

/-- A cause is never an unbound parameter, a source that is no sequence, or a count that
is neither Null nor a number. -/
theorem Cause.in_data {p : Plan κ ρ} (h : Cause S stack p e) :
    (∀ x, e ≠ .unboundParameter x) ∧ (∀ operator t, e ≠ .operatorOfOther operator t) ∧
      ∀ shown, e = .badCount shown → shown = "(null)" := by
  cases h with
  | countOfNull hc =>
    refine ⟨by simp, by simp, ?_⟩
    intro shown h
    cases h
    rfl
  | _ => exact ⟨by simp, by simp, by simp⟩

/-! ## Failures of steps -/

theorem itemsOf_eq_error {operator : String} {item : ValueType κ} {v : Value κ ρ}
    (hv : S.Fits (.sequence item) v) (h : itemsOf S operator v = .error e) :
    v = .null ∧ e = .operatorOfNull operator := by
  obtain ⟨rfl | ht, -⟩ := hv
  · cases h
    exact ⟨rfl, rfl⟩
  · cases v with
    | sequence element items origin => cases h
    | _ => cases ht

theorem sizeOf?_eq_error {v : Value κ ρ} (hv : S.Fits .int v) (h : sizeOf? S v = .error e) :
    v = .null ∧ e = .badCount (S.shown (.null : Value κ ρ)) := by
  obtain ⟨rfl | ht, -⟩ := hv
  · cases h
    exact ⟨rfl, rfl⟩
  · cases v with
    | int n => cases h
    | _ => cases ht

theorem meanings_eq_error {env : Environment κ ρ} {arguments : List (Plan κ ρ)}
    (h : meanings S env arguments = .error e) : ∃ a ∈ arguments, meaning S env a = .error e := by
  induction arguments with
  | nil => cases h
  | cons a more ih =>
    rw [meanings] at h
    rcases bind_eq_error.mp h with ha | ⟨v, -, h⟩
    · exact ⟨a, by simp, ha⟩
    · rcases bind_eq_error.mp h with hmore | ⟨rest, -, h⟩
      · obtain ⟨b, hb, fails⟩ := ih hmore
        exact ⟨b, by simp [hb], fails⟩
      · cases h

theorem answerOf_eq_error {finder : Finder} {items : List (Value κ ρ)}
    (h : answerOf finder items = .error e) : finder = .first ∧ items = [] ∧ e = .noElement := by
  cases finder with
  | first =>
    cases items with
    | nil =>
      cases h
      exact ⟨rfl, rfl, rfl⟩
    | cons a rest => cases h
  | _ => cases h

/-- A finder with a test fails where the test fails, or it is the first item that is
asked for and no item passes. -/
theorem answerFor_eq_error {finder : Finder} {passes : Value κ ρ → Except RuntimeError Bool}
    {items : List (Value κ ρ)} (h : answerFor finder passes items = .error e) :
    (∃ a ∈ items, passes a = .error e) ∨
      finder = .first ∧ e = .noMatch ∧ ∀ a ∈ items, passes a = .ok false := by
  cases finder with
  | first =>
    rcases bind_eq_error.mp h with hf | ⟨found, hf, h⟩
    · exact .inl (findM?_eq_error hf).mem
    · cases found with
      | none =>
        cases h
        exact .inr ⟨rfl, rfl, findM?_eq_none hf⟩
      | some a => cases h
  | count =>
    rcases bind_eq_error.mp h with hf | ⟨kept, -, h⟩
    · exact .inl (filterM_eq_error hf).mem
    · cases h
  | _ =>
    rcases bind_eq_error.mp h with hf | ⟨found, -, h⟩
    · exact .inl (findM?_eq_error hf).mem
    · cases h

/-- Only a lambda that is passed for a parameter of its type has no value. -/
theorem lambda_mem_zip {arguments : List (Plan κ ρ)} {parameters : List (ValueType κ)}
    (fits : Passable S arguments parameters) {b : Binder κ} {body : Plan κ ρ}
    (h : .lambda b body ∈ arguments) :
    (.lambda b body, .function b.type (body.type S)) ∈ arguments.zip parameters := by
  induction fits with
  | nil => cases h
  | @cons a type more rest hf _ ih =>
    rw [List.zip_cons_cons, List.mem_cons]
    rcases List.mem_cons.mp h with rfl | h
    · left
      rcases hf with rfl | hf
      · rfl
      · cases hf
    · exact .inr (ih h)

/-! ## Failures of plans -/

/-- A failure of a call is explained by the body that the operator called. -/
theorem Explained.call {p source body : Plan κ ρ} {x : String} {type element : ValueType κ}
    {items : List (Value κ ρ)} {origin : Option Nat} {item : Value κ ρ}
    {scope : Scope κ} {env : Environment κ ρ} (hm : Matches scope stack env)
    (hp : p.lambda? = some (source, scope.bind x type, body))
    (hs : outcome S stack source = .ok (.sequence element items origin)) (hi : item ∈ items)
    (h : Explained S (stack ++ [item]) body e) : Explained S stack p e := by
  obtain ⟨after, r, reaches, because⟩ := h
  refine ⟨after, r, .call hp hs hi ?_, because⟩
  rw [hm.take]
  exact reaches

variable [DecidableEq κ] {root : Root κ ρ} {scope : Scope κ} {env : Environment κ ρ}

theorem WellFormed.outcome_eq {p : Plan κ ρ} (h : WellFormed S root scope p)
    (hm : Matches scope stack env) : outcome S stack p = meaning S env p := by
  unfold outcome
  rw [h.gives_meaning hm]

/-- The body of a lambda on the stack that an operator calls it with. -/
theorem WellFormed.outcome_call {x : String} {type : ValueType κ} {body : Plan κ ρ}
    (h : WellFormed S root (scope.bind x type :: scope) body) (hm : Matches scope stack env)
    (item : Value κ ρ) :
    outcome S (stack.take (scope.bind x type).slot ++ [item]) body =
      meaning S ((x, item) :: env) body := by
  rw [hm.take]
  exact h.outcome_eq (hm.call x type item)

/-- A failure of an operator is explained when it is explained wherever the source gave
items and the rest of the operator failed on them. -/
theorem operator_failure {p source : Plan κ ρ} {operator : String} {item : ValueType κ}
    {rest : List (Value κ ρ) → Except RuntimeError (Value κ ρ)}
    (wf : WellFormed S root scope source) (ts : source.type S = .sequence item)
    (honest : S.Honest) (hr : root.Fits S) (hm : Matches scope stack env)
    (he : Fitting S scope env) (own : outcome S stack p = .error e)
    (hp : p.operator? = some (operator, source)) (hq : source ∈ p.operands)
    (ih : meaning S env source = .error e → Explained S stack source e)
    (h : (do rest (← itemsOf S operator (← meaning S env source))) = .error e)
    (hrest : ∀ element items origin, outcome S stack source = .ok (.sequence element items origin) →
      (∀ a ∈ items, S.Fits item a) → rest items = .error e → Explained S stack p e) :
    Explained S stack p e := by
  rcases bind_eq_error.mp h with hs | ⟨v, hv, h⟩
  · exact (ih hs).operand hq
  · rcases bind_eq_error.mp h with hi | ⟨items, hi, h⟩
    · obtain ⟨rfl, rfl⟩ := itemsOf_eq_error (ts ▸ wf.fits_meaning honest hr he hv) hi
      exact (Cause.operatorOfNull hp ((wf.outcome_eq hm).trans hv)).explained own
    · have fits := fits_itemsOf (ts ▸ wf.fits_meaning honest hr he hv) hi
      obtain ⟨element, origin, rfl⟩ := itemsOf_eq_ok hi
      exact hrest element items origin ((wf.outcome_eq hm).trans hv) fits h

theorem outcomes_eq {arguments : List (Plan κ ρ)} {values : List (Value κ ρ)}
    (wf : ∀ a ∈ arguments, WellFormed S root scope a) (hm : Matches scope stack env)
    (h : List.Forall₂ (fun a v => meaning S env a = .ok v) arguments values) :
    List.Forall₂ (fun a v => outcome S stack a = .ok v) arguments values := by
  induction h with
  | nil => exact .nil
  | @cons a v more rest hv _ ih =>
    exact .cons (((wf a (by simp)).outcome_eq hm).trans hv) (ih fun b hb => wf b (by simp [hb]))

/-- Every failure of a well-formed plan that is no lambda has a cause. -/
theorem WellFormed.explained {p : Plan κ ρ} (h : WellFormed S root scope p)
    (vp : p.isLambda = false) (honest : S.Honest) (hr : root.Fits S)
    (hm : Matches scope stack env) (he : Fitting S scope env)
    (hf : meaning S env p = .error e) : Explained S stack p e := by
  induction h generalizing stack env e with
  | root => cases hf
  | text s => cases hf
  | number n => cases hf
  | parameter bound =>
    obtain ⟨v, hv, -⟩ := he.lookup bound
    simp only [meaning, hv] at hf
    cases hf
  | @member scope target m ht hmem ih =>
    have own := ((WellFormed.member ht hmem).outcome_eq hm).trans hf
    have vt : target.isLambda = false := isLambda_of_type rfl fun a r same => by
      rw [same] at hmem
      cases hmem
    rcases bind_eq_error.mp hf with hf | ⟨v, hv, hf⟩
    · exact (ih vt hm he hf).operand (by simp [operands])
    · split at hf
      · rename_i null
        cases hf
        cases v with
        | null => exact (Cause.memberOfNull ((ht.outcome_eq hm).trans hv)).explained own
        | _ => cases null
      · cases hf
  | @invoke scope target m arguments ht hmem hargs passable iht iha =>
    have own := ((WellFormed.invoke ht hmem hargs passable).outcome_eq hm).trans hf
    have vt : target.isLambda = false := isLambda_of_type rfl fun a r same => by
      rw [same] at hmem
      cases hmem
    rw [meaning] at hf
    rcases bind_eq_error.mp hf with hf | ⟨v, hv, hf⟩
    · exact (iht vt hm he hf).operand (by simp [operands])
    · split at hf
      · rename_i null
        cases hf
        cases v with
        | null => exact (Cause.methodOfNull ((ht.outcome_eq hm).trans hv)).explained own
        | _ => cases null
      · rename_i notNull
        rcases bind_eq_error.mp hf with hf | ⟨values, hvs, hf⟩
        · obtain ⟨a, ha, fails⟩ := meanings_eq_error hf
          cases a with
          | lambda b body =>
            cases fails
            exact (Cause.lambdaPassed (lambda_mem_zip passable ha)).explained own
          | _ => exact (iha _ ha rfl hm he fails).operand (by simp [operands, ha])
        · have same := (ht.fits_meaning honest hr he hv).typeOf (by simpa using notNull)
          cases hcall : m.call v values with
          | ok r =>
            rw [hcall] at hf
            cases hf
          | error message =>
            rw [hcall] at hf
            cases hf
            refine (Cause.refused (same ▸ hmem) ((ht.outcome_eq hm).trans hv) ?_
              hcall).explained own
            exact outcomes_eq hargs hm (meanings_eq_ok hvs)
  | convert w hp numeric ih =>
    have vp := isLambda_of_type rfl fun a r same => by
      rw [same] at numeric
      cases numeric
    exact (ih vp hm he (map_eq_error hf)).operand (by simp [operands])
  | compare c hl hr' vl vr _ ihl ihr =>
    rcases bind_eq_error.mp hf with hf | ⟨l, -, hf⟩
    · exact (ihl vl hm he hf).operand (by simp [operands])
    · exact (ihr vr hm he (map_eq_error hf)).operand (by simp [operands])
  | logical c hl hr' tl tr ihl ihr =>
    have vl := isLambda_of_type tl (by simp)
    have vr := isLambda_of_type tr (by simp)
    cases c with
    | and =>
      rcases bind_eq_error.mp hf with hf | ⟨l, -, hf⟩
      · exact (ihl vl hm he hf).operand (by simp [operands])
      · split at hf
        · exact (ihr vr hm he (map_eq_error hf)).operand (by simp [operands])
        · cases hf
    | or =>
      rcases bind_eq_error.mp hf with hf | ⟨l, -, hf⟩
      · exact (ihl vl hm he hf).operand (by simp [operands])
      · split at hf
        · cases hf
        · exact (ihr vr hm he (map_eq_error hf)).operand (by simp [operands])
  | lambda _ _ _ => cases vp
  | filter hs ts hb tb ihs ihb =>
    have own := ((WellFormed.filter hs ts hb tb).outcome_eq hm).trans hf
    have vs := isLambda_of_type ts (by simp)
    have vb := isLambda_of_type tb (by simp)
    rw [meaning] at hf
    refine operator_failure hs ts honest hr hm he own rfl (by simp [operands]) (ihs vs hm he) hf ?_
    intro element items origin hsrc fits hf
    obtain ⟨item, hi, fails⟩ := (filterM_eq_error (map_eq_error hf)).mem
    refine Explained.call hm rfl hsrc hi ?_
    exact ihb vb (hm.call _ _ item) (he.bind _ (fits item hi)) (map_eq_error fails)
  | select hs ts hb vb ihs ihb =>
    have own := ((WellFormed.select hs ts hb vb).outcome_eq hm).trans hf
    have vs := isLambda_of_type ts (by simp)
    rw [meaning] at hf
    refine operator_failure hs ts honest hr hm he own rfl (by simp [operands]) (ihs vs hm he) hf ?_
    intro element items origin hsrc fits hf
    obtain ⟨item, hi, fails⟩ := (mapM_eq_error (map_eq_error hf)).mem
    refine Explained.call hm rfl hsrc hi ?_
    exact ihb vb (hm.call _ _ item) (he.bind _ (fits item hi)) fails
  | sort descending hs ts hb tb ihs ihb =>
    have own := ((WellFormed.sort descending hs ts hb tb).outcome_eq hm).trans hf
    have vs := isLambda_of_type ts (by simp)
    have vb := isLambda_of_type rfl fun a r same => by
      rw [same] at tb
      cases tb
    rw [meaning] at hf
    refine operator_failure hs ts honest hr hm he own rfl (by simp [operands]) (ihs vs hm he) hf ?_
    intro element items origin hsrc fits hf
    obtain ⟨item, hi, fails⟩ := (mapM_eq_error (map_eq_error hf)).mem
    refine Explained.call hm rfl hsrc hi ?_
    exact ihb vb (hm.call _ _ item) (he.bind _ (fits item hi)) (map_eq_error fails)
  | slice s hs ts hc tc ihs ihc =>
    have own := ((WellFormed.slice s hs ts hc tc).outcome_eq hm).trans hf
    have vs := isLambda_of_type ts (by simp)
    have vc := isLambda_of_type tc (by simp)
    rw [meaning] at hf
    refine operator_failure hs ts honest hr hm he own rfl (by simp [operands]) (ihs vs hm he) hf ?_
    intro element items origin hsrc fits hf
    rcases bind_eq_error.mp hf with hf | ⟨v, hv, hf⟩
    · exact (ihc vc hm he hf).operand (by simp [operands])
    · obtain ⟨rfl, rfl⟩ :=
        sizeOf?_eq_error (tc ▸ hc.fits_meaning honest hr he hv) (map_eq_error hf)
      exact (Cause.countOfNull ((hc.outcome_eq hm).trans hv)).explained own
  | find finder hs ts ihs =>
    have own := ((WellFormed.find finder hs ts).outcome_eq hm).trans hf
    have vs := isLambda_of_type ts (by simp)
    rw [meaning] at hf
    refine operator_failure hs ts honest hr hm he own rfl (by simp [operands]) (ihs vs hm he) hf ?_
    intro element items origin hsrc fits hf
    obtain ⟨rfl, rfl, rfl⟩ := answerOf_eq_error hf
    exact (Cause.noElement hsrc).explained own
  | findWhere finder hs ts hb tb ihs ihb =>
    have own := ((WellFormed.findWhere finder hs ts hb tb).outcome_eq hm).trans hf
    have vs := isLambda_of_type ts (by simp)
    have vb := isLambda_of_type tb (by simp)
    rw [meaning] at hf
    refine operator_failure hs ts honest hr hm he own rfl (by simp [operands]) (ihs vs hm he) hf ?_
    intro element items origin hsrc fits hf
    rcases answerFor_eq_error hf with ⟨item, hi, fails⟩ | ⟨rfl, rfl, rejected⟩
    · refine Explained.call hm rfl hsrc hi ?_
      exact ihb vb (hm.call _ _ item) (he.bind _ (fits item hi)) (map_eq_error fails)
    · refine (Cause.noMatch hsrc fun item hi => ?_).explained own
      obtain ⟨v, hv, untrue⟩ := bind_eq_ok.mp (rejected item hi)
      exact ⟨v, (hb.outcome_call hm item).trans hv, Except.ok.inj untrue⟩

/-! ## The law -/

/-- Over an honest schema and a root whose items fit, a query that compiles fails only
where a part of its plan that the run reaches has a cause to: it is called on Null, finds
no item, has Null for its count, has a method that refuses, or passes a lambda to a
method. No parameter is unbound, no operator is called on anything but a sequence or
Null, and no count is anything but a number or Null. -/
theorem a_run_fails_only_for_a_cause_in_the_data (honest : S.Honest) (hr : root.Fits S)
    (e : Expr) (p : Plan κ ρ) (h : compile S root e = .ok p) (error : QueryError)
    (hf : execute S p = .error error) :
    ∃ r, error = .runtime r ∧ Explained S [] p r ∧ (∀ x, r ≠ .unboundParameter x) ∧
      (∀ operator t, r ≠ .operatorOfOther operator t) ∧
      ∀ shown, r = .badCount shown → shown = "(null)" := by
  obtain ⟨wf, vp⟩ := wellFormed_compile h
  rw [wf.execute_eq] at hf
  cases hm : meaning S [] p with
  | ok v =>
    rw [hm] at hf
    cases hf
  | error r =>
    rw [hm] at hf
    cases hf
    obtain ⟨after, q, reaches, fails, cause⟩ := wf.explained vp honest hr .nil .nil hm
    exact ⟨r, rfl, ⟨after, q, reaches, fails, cause⟩, cause.in_data⟩

/-- The first commit that changes a file. -/
def firstChange : Expr :=
  .call (.name "Commits") "First" [.lambda "x"
    (.call (.member (.member (.name "x") "Diff") "Files") "Any" [])]

theorem a_run_over_commits_fails_for_a_cause :
    Extension.nothing.schema.Honest ∧
      (Root.ofCommits [.blank]).Fits Extension.nothing.schema ∧
      ∃ p, compile Extension.nothing.schema (.ofCommits [.blank]) firstChange = .ok p ∧
        execute Extension.nothing.schema p = .error (.runtime .noMatch) ∧
        ∃ r, QueryError.runtime .noMatch = .runtime r ∧
          Explained Extension.nothing.schema [] p r ∧ (∀ x, r ≠ .unboundParameter x) ∧
          (∀ operator t, r ≠ .operatorOfOther operator t) ∧
          ∀ shown, r = .badCount shown → shown = "(null)" := by
  have h : ∃ p, compile Extension.nothing.schema (.ofCommits [.blank]) firstChange = .ok p ∧
      execute Extension.nothing.schema p = .error (.runtime .noMatch) := ⟨_, by cbv, by cbv⟩
  obtain ⟨p, h, hf⟩ := h
  have hr : (Root.ofCommits [.blank]).Fits Extension.nothing.schema := fits_ofCommits [.blank]
  exact ⟨honest_schema_nothing, hr, p, h, hf,
    a_run_fails_only_for_a_cause_in_the_data honest_schema_nothing hr firstChange p h _ hf⟩

end CommitQuery.Plan
