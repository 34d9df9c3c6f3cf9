-- The static type of a plan holds of every value that a run of the plan gives, over
-- every honest schema and every root whose items fit its element type.
import CommitQuery.Proofs.Plan.Lexical
import CommitQuery.Proofs.Value.Honest
import CommitQuery.Proofs.Value.Sort

namespace CommitQuery

open Query

variable {κ ρ : Type}

/-- A root whose items, at any nesting, are Null or of the type that is declared. -/
def Root.Fits (S : Schema κ ρ) (root : Root κ ρ) : Prop :=
  ∀ v ∈ root.items, S.Fits root.element v

namespace Plan

variable {S : Schema κ ρ} {scope : Scope κ} {env : Environment κ ρ}

/-! ## Environments -/

/-- An environment with a value of the right type for each parameter in scope. -/
def Fitting (S : Schema κ ρ) (scope : Scope κ) (env : Environment κ ρ) : Prop :=
  List.Forall₂ (fun b entry => b.name = entry.1 ∧ S.Fits b.type entry.2) scope env

theorem Fitting.bind (h : Fitting S scope env) (x : String) {type : ValueType κ}
    {v : Value κ ρ} (hv : S.Fits type v) :
    Fitting S (scope.bind x type :: scope) ((x, v) :: env) :=
  .cons ⟨rfl, hv⟩ h

theorem Fitting.lookup (h : Fitting S scope env) {x : String} {b : Binder κ}
    (hb : scope.lookup? x = some b) : ∃ v, env.lookup x = some v ∧ S.Fits b.type v := by
  induction h with
  | nil => cases hb
  | @cons c entry scope env hc _ ih =>
    obtain ⟨y, v⟩ := entry
    obtain ⟨name, fits⟩ := hc
    rw [Scope.lookup?, List.find?_cons] at hb
    split at hb
    · rename_i same
      cases hb
      have hx : y = x := name.symm.trans (of_decide_eq_true same)
      exact ⟨v, by simp [hx], fits⟩
    · rename_i other
      have hx : ¬ x = y := fun h => by simp [name, h] at other
      obtain ⟨w, hw, hfits⟩ := ih hb
      exact ⟨w, by rw [List.lookup_cons, beq_false_of_ne hx, hw], hfits⟩

/-! ## Steps -/

theorem itemsOf_eq_ok {operator : String} {v : Value κ ρ} {items : List (Value κ ρ)}
    (h : itemsOf S operator v = .ok items) :
    ∃ element origin, v = .sequence element items origin := by
  cases v with
  | sequence element items' origin =>
    cases h
    exact ⟨element, origin, rfl⟩
  | _ => cases h

theorem fits_itemsOf {operator : String} {item : ValueType κ} {v : Value κ ρ}
    {items : List (Value κ ρ)} (hv : S.Fits (.sequence item) v)
    (h : itemsOf S operator v = .ok items) : ∀ a ∈ items, S.Fits item a := by
  obtain ⟨element, origin, rfl⟩ := itemsOf_eq_ok h
  have same : ValueType.sequence element = .sequence item := hv.typeOf rfl
  cases same
  exact hv.items

theorem fits_changeWidth {type : ValueType κ} {v : Value κ ρ} (h : S.Fits type v)
    (numeric : type.isNumeric = true) (w : Width) : S.Fits w.type (changeWidth w v) := by
  obtain ⟨rfl | rfl, -⟩ := h
  · exact Schema.fits_null _
  · cases v with
    | int n => cases w <;> exact Schema.fits_single rfl
    | long n => cases w <;> exact Schema.fits_single rfl
    | _ => cases numeric

theorem fits_ofItems {type : ValueType κ} {items : List (Value κ ρ)}
    (h : ∀ v ∈ items, S.Fits type v) : S.Fits (.sequence type) (.ofItems type items) :=
  Schema.fits_sequence h none

theorem fits_foundOr {type : ValueType κ} {missing : RuntimeError} {found : Option (Value κ ρ)}
    (hf : ∀ a, found = some a → S.Fits type a) {v : Value κ ρ}
    (h : foundOr missing found = .ok v) : S.Fits type v := by
  cases found with
  | none => cases h
  | some a =>
    cases h
    exact hf _ rfl

theorem fits_getD_null {type : ValueType κ} {found : Option (Value κ ρ)}
    (hf : ∀ a, found = some a → S.Fits type a) : S.Fits type (found.getD .null) := by
  cases found with
  | none => exact Schema.fits_null type
  | some a => exact hf a rfl

theorem fits_answerOf {finder : Finder} {type : ValueType κ} {items : List (Value κ ρ)}
    (hi : ∀ a ∈ items, S.Fits type a) {v : Value κ ρ} (h : answerOf finder items = .ok v) :
    S.Fits (finder.type type) v := by
  have head : ∀ a, items.head? = some a → S.Fits type a :=
    fun a ha => hi a (List.mem_of_head? ha)
  cases finder with
  | first => exact fits_foundOr head h
  | firstOrDefault =>
    cases h
    exact fits_getD_null head
  | any =>
    cases h
    exact Schema.fits_single rfl
  | count =>
    cases h
    exact Schema.fits_single rfl

theorem fits_answerFor {finder : Finder} {type : ValueType κ} {items : List (Value κ ρ)}
    {passes : Value κ ρ → Except RuntimeError Bool} (hi : ∀ a ∈ items, S.Fits type a)
    {v : Value κ ρ} (h : answerFor finder passes items = .ok v) :
    S.Fits (finder.type type) v := by
  have found : ∀ {o}, items.findM? passes = .ok o → ∀ a, o = some a → S.Fits type a := by
    rintro _ ho a rfl
    obtain ⟨before, after, rfl, -, -⟩ := findM?_eq_some ho
    exact hi a (by simp)
  cases finder with
  | first =>
    obtain ⟨o, ho, h⟩ := bind_eq_ok.mp h
    exact fits_foundOr (found ho) h
  | firstOrDefault =>
    obtain ⟨o, ho, h⟩ := bind_eq_ok.mp h
    cases h
    exact fits_getD_null (found ho)
  | any =>
    obtain ⟨o, ho, h⟩ := bind_eq_ok.mp h
    cases h
    exact Schema.fits_single rfl
  | count =>
    obtain ⟨kept, hk, h⟩ := bind_eq_ok.mp h
    cases h
    exact Schema.fits_single rfl

theorem mem_sortByKeys {descending : Bool} {keyed : List (Value κ ρ × Value κ ρ)}
    {v : Value κ ρ} (h : v ∈ sortByKeys descending keyed) : ∃ key, (key, v) ∈ keyed := by
  obtain ⟨⟨key, a⟩, ha, rfl⟩ := List.mem_map.mp h
  exact ⟨key, (Sort.sorted_perm _ keyed).mem_iff.mp ha⟩

theorem mem_cut {s : Slice} {n : Nat} {items : List (Value κ ρ)} {v : Value κ ρ}
    (h : v ∈ cut s n items) : v ∈ items := by
  cases s with
  | take => exact List.mem_of_mem_take h
  | skip => exact List.mem_of_mem_drop h

/-- The arguments of a method have their values from left to right. -/
theorem meanings_eq_ok {arguments : List (Plan κ ρ)} {values : List (Value κ ρ)}
    (h : meanings S env arguments = .ok values) :
    List.Forall₂ (fun a v => meaning S env a = .ok v) arguments values := by
  induction arguments generalizing values with
  | nil =>
    cases h
    exact .nil
  | cons a more ih =>
    simp only [meanings, bind_eq_ok] at h
    obtain ⟨v, ha, rest, hrest, h⟩ := h
    cases h
    exact .cons ha (ih hrest)

/-- Values of passable arguments fit the parameters: an argument of type Null has no
value but Null. -/
theorem fits_of_passable {arguments : List (Plan κ ρ)} {parameters : List (ValueType κ)}
    (fits : Passable S arguments parameters) {values : List (Value κ ρ)}
    (hv : List.Forall₂ (fun a v => meaning S env a = .ok v) arguments values)
    (ha : ∀ a ∈ arguments, ∀ v, meaning S env a = .ok v → S.Fits (a.type S) v) :
    List.Forall₂ S.Fits parameters values := by
  induction fits generalizing values with
  | nil =>
    cases hv
    exact .nil
  | @cons a type more rest h _ ih =>
    cases hv with
    | @cons _ v _ vs hav hmore =>
      have hfit := ha a (by simp) v hav
      refine .cons ?_ (ih hmore fun b hb => ha b (by simp [hb]))
      rcases h with h | h
      · exact h ▸ hfit
      · exact (h ▸ hfit).of_null type

/-! ## Plans -/

variable [DecidableEq κ] {root : Root κ ρ}

/-- A value of a well-formed plan fits the plan's type. -/
theorem WellFormed.fits_meaning {p : Plan κ ρ} (h : WellFormed S root scope p)
    (honest : S.Honest) (hr : root.Fits S) (he : Fitting S scope env) {v : Value κ ρ}
    (hv : meaning S env p = .ok v) : S.Fits (p.type S) v := by
  induction h generalizing env v with
  | root =>
    cases hv
    exact fits_ofItems hr
  | text s =>
    cases hv
    exact Schema.fits_single rfl
  | number n =>
    cases hv
    exact Schema.fits_single rfl
  | parameter bound =>
    obtain ⟨w, hw, fits⟩ := he.lookup bound
    simp only [meaning, hw] at hv
    cases hv
    exact fits
  | member _ hm ih =>
    simp only [meaning, bind_eq_ok] at hv
    obtain ⟨t, ht, hv⟩ := hv
    split at hv
    · cases hv
    · rename_i notNull
      cases hv
      exact honest.fits_get hm ((ih he ht).typeOf (by simpa using notNull))
  | @invoke scope target m arguments _ hm _ passable iht iha =>
    simp only [meaning, bind_eq_ok] at hv
    obtain ⟨t, ht, hv⟩ := hv
    split at hv
    · cases hv
    · rename_i notNull
      obtain ⟨values, hvs, hv⟩ := bind_eq_ok.mp hv
      have hfit := fits_of_passable passable (meanings_eq_ok hvs) fun a ha v => iha a ha he
      cases hcall : m.call t values with
      | error message =>
        rw [hcall] at hv
        cases hv
      | ok r =>
        rw [hcall] at hv
        cases hv
        exact honest.fits_call hm ((iht he ht).typeOf (by simpa using notNull)) hfit hcall
  | convert w _ numeric ih =>
    simp only [meaning, bind_eq_ok] at hv
    obtain ⟨a, ha, hv⟩ := hv
    cases hv
    exact fits_changeWidth (ih he ha) numeric w
  | compare c _ _ _ _ _ _ _ =>
    simp only [meaning, bind_eq_ok] at hv
    obtain ⟨l, -, r, -, hv⟩ := hv
    cases hv
    exact Schema.fits_single rfl
  | logical c _ _ _ _ _ _ =>
    cases c with
    | and =>
      simp only [meaning, bind_eq_ok] at hv
      obtain ⟨l, -, hv⟩ := hv
      split at hv
      · obtain ⟨r, -, hv⟩ := bind_eq_ok.mp hv
        cases hv
        exact Schema.fits_single rfl
      · cases hv
        exact Schema.fits_single rfl
    | or =>
      simp only [meaning, bind_eq_ok] at hv
      obtain ⟨l, -, hv⟩ := hv
      split at hv
      · cases hv
        exact Schema.fits_single rfl
      · obtain ⟨r, -, hv⟩ := bind_eq_ok.mp hv
        cases hv
        exact Schema.fits_single rfl
  | lambda _ _ _ => cases hv
  | filter _ ts _ _ ihs _ =>
    simp only [meaning, bind_eq_ok] at hv
    obtain ⟨a, ha, items, hi, kept, hk, hv⟩ := hv
    cases hv
    have source := fits_itemsOf (ts ▸ ihs he ha) hi
    simp only [type, ts]
    refine fits_ofItems fun b hb => source b ?_
    rw [(filterM_eq_ok hk).2] at hb
    exact List.mem_of_mem_filter hb
  | select _ ts _ _ ihs ihb =>
    simp only [meaning, bind_eq_ok] at hv
    obtain ⟨a, ha, items, hi, images, hm, hv⟩ := hv
    cases hv
    have source := fits_itemsOf (ts ▸ ihs he ha) hi
    refine fits_ofItems fun b hb => ?_
    obtain ⟨item, hitem, image⟩ := mem_of_mapM hm hb
    exact ihb (he.bind _ (source item hitem)) image
  | sort descending _ ts _ _ ihs _ =>
    simp only [meaning, bind_eq_ok] at hv
    obtain ⟨a, ha, items, hi, keyed, hk, hv⟩ := hv
    cases hv
    have source := fits_itemsOf (ts ▸ ihs he ha) hi
    simp only [type, ts]
    refine fits_ofItems fun b hb => source b ?_
    obtain ⟨key, hkey⟩ := mem_sortByKeys hb
    obtain ⟨item, hitem, keyOf⟩ := mem_of_mapM hk hkey
    obtain ⟨_, _, same⟩ := bind_eq_ok.mp keyOf
    cases same
    exact hitem
  | slice s _ ts _ _ ihs _ =>
    simp only [meaning, bind_eq_ok] at hv
    obtain ⟨a, ha, items, hi, count, -, n, -, hv⟩ := hv
    cases hv
    have source := fits_itemsOf (ts ▸ ihs he ha) hi
    simp only [type, ts]
    exact fits_ofItems fun b hb => source b (mem_cut hb)
  | find finder _ ts ihs =>
    simp only [meaning, bind_eq_ok] at hv
    obtain ⟨a, ha, items, hi, hv⟩ := hv
    have source := fits_itemsOf (ts ▸ ihs he ha) hi
    simp only [type, ts]
    exact fits_answerOf source hv
  | findWhere finder _ ts _ _ ihs _ =>
    simp only [meaning, bind_eq_ok] at hv
    obtain ⟨a, ha, items, hi, hv⟩ := hv
    have source := fits_itemsOf (ts ▸ ihs he ha) hi
    simp only [type, ts]
    exact fits_answerFor source hv

/-! ## The law -/

/-- Over an honest schema and a root whose items fit, the run of a query that compiles
gives Null or a value of the static type of its plan, with items that fit their sequences
at any nesting, or else it fails with an error of the run. -/
theorem a_run_keeps_the_static_type (honest : S.Honest) (hr : root.Fits S) (e : Expr)
    (p : Plan κ ρ) (h : compile S root e = .ok p) :
    (∃ v, execute S p = .ok v ∧ (v = .null ∨ S.typeOf v = p.type S) ∧ S.Coherent v) ∨
      ∃ r, execute S p = .error (.runtime r) := by
  obtain ⟨wf, -⟩ := wellFormed_compile h
  rw [wf.execute_eq]
  cases hv : meaning S [] p with
  | ok v =>
    left
    obtain ⟨admits, coherent⟩ := wf.fits_meaning honest hr .nil hv
    exact ⟨v, rfl, admits, coherent⟩
  | error r => exact .inr ⟨r, rfl⟩

theorem a_run_over_commits_keeps_the_static_type :
    Extension.nothing.schema.Honest ∧
      (Root.ofCommits [.blank]).Fits Extension.nothing.schema ∧
      ∃ p, compile Extension.nothing.schema (.ofCommits [.blank]) shadowing = .ok p ∧
        ((∃ v, execute Extension.nothing.schema p = .ok v ∧
            (v = .null ∨ Extension.nothing.schema.typeOf v = p.type Extension.nothing.schema) ∧
            Extension.nothing.schema.Coherent v) ∨
          ∃ r, execute Extension.nothing.schema p = .error (.runtime r)) := by
  obtain ⟨p, h⟩ := compile_shadowing
  have hr : (Root.ofCommits [.blank]).Fits Extension.nothing.schema := fits_ofCommits [.blank]
  exact ⟨honest_schema_nothing, hr, p, h,
    a_run_keeps_the_static_type honest_schema_nothing hr shadowing p h⟩

end Plan

end CommitQuery
