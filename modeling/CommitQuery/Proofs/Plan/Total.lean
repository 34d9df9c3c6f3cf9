-- Runs that cannot fail. Where the data holds no Null and the schema answers it with
-- none, a query has a value as long as it asks for no first item and reads no member
-- that may be missing. Over commits the old path of a file is the only such member.
import CommitQuery.Proofs.Commit.Solid
import CommitQuery.Proofs.Plan.Lexical
import CommitQuery.Proofs.Plan.Names
import CommitQuery.Proofs.Plan.Typing

namespace CommitQuery

open Query

variable {κ ρ : Type}

namespace Plan

variable {S : Schema κ ρ} {scope : Scope κ} {env : Environment κ ρ}

/-! ## Environments -/

/-- Every parameter in scope has a solid value of its type. -/
def Solids (S : Schema κ ρ) (scope : Scope κ) (env : Environment κ ρ) : Prop :=
  ∀ x b, scope.lookup? x = some b → ∃ v, env.lookup x = some v ∧ S.Solid b.type v

theorem solids_nil : Solids S [] ([] : Environment κ ρ) := by
  intro x b hb
  cases hb

theorem Solids.bind (h : Solids S scope env) (x : String) {type : ValueType κ} {v : Value κ ρ}
    (hv : S.Solid type v) : Solids S (scope.bind x type :: scope) ((x, v) :: env) := by
  intro y b hb
  rw [Scope.lookup?, List.find?_cons] at hb
  split at hb
  · rename_i same
    cases hb
    have hy : x = y := of_decide_eq_true same
    exact ⟨v, by simp [hy], hv⟩
  · rename_i other
    have hy : ¬ y = x := fun h => by simp [Scope.bind, h] at other
    obtain ⟨w, hw, solid⟩ := h y b hb
    exact ⟨w, by rw [List.lookup_cons, beq_false_of_ne hy, hw], solid⟩

/-! ## Steps -/

/-- A source with a solid value gives its items to the operator that is called on it. -/
theorem solid_source {source : Plan κ ρ} {item : ValueType κ} (operator : String)
    (ts : source.type S = .sequence item)
    (h : ∃ v, meaning S env source = .ok v ∧ S.Solid (source.type S) v) :
    ∃ v items, meaning S env source = .ok v ∧ itemsOf S operator v = .ok items ∧
      ∀ a ∈ items, S.Solid item a := by
  obtain ⟨v, hv, solid⟩ := h
  obtain ⟨items, origin, rfl, solids⟩ := (ts ▸ solid).sequence_items
  exact ⟨_, items, hv, rfl, solids⟩

theorem solid_changeWidth {type : ValueType κ} {v : Value κ ρ} (h : S.Solid type v)
    (numeric : type.isNumeric = true) (w : Width) : S.Solid w.type (changeWidth w v) := by
  have same := h.typeOf
  cases v with
  | int n => cases w <;> exact .single rfl rfl rfl
  | long n => cases w <;> exact .single rfl rfl rfl
  | _ =>
    subst same
    cases numeric

/-- A finder that is content with no item has an answer. -/
theorem solid_answerOf {finder : Finder} (hf : finder = .any ∨ finder = .count)
    (type : ValueType κ) (items : List (Value κ ρ)) :
    ∃ v, answerOf finder items = .ok v ∧ S.Solid (finder.type type) v := by
  rcases hf with rfl | rfl
  · exact ⟨_, rfl, Schema.solid_bool _⟩
  · exact ⟨_, rfl, Schema.solid_int _⟩

theorem solid_answerFor {finder : Finder} (hf : finder = .any ∨ finder = .count)
    (type : ValueType κ) {passes : Value κ ρ → Except RuntimeError Bool}
    {items : List (Value κ ρ)} (hp : ∀ a ∈ items, ∃ b, passes a = .ok b) :
    ∃ v, answerFor finder passes items = .ok v ∧ S.Solid (finder.type type) v := by
  rcases hf with rfl | rfl
  · obtain ⟨found, h⟩ := findM?_gives hp
    simp only [answerFor, h]
    exact ⟨_, rfl, Schema.solid_bool _⟩
  · obtain ⟨kept, h⟩ := filterM_gives hp
    simp only [answerFor, h]
    exact ⟨_, rfl, Schema.solid_int _⟩

/-- A step that makes something of the value of a lambda's body has a result for every
item, if the body has a value for every solid one. -/
theorem solid_items {items : List (Value κ ρ)} {type result : ValueType κ} {x : String}
    {body : Plan κ ρ} (hi : ∀ a ∈ items, S.Solid type a)
    (hb : ∀ a, S.Solid type a → ∃ v, meaning S ((x, a) :: env) body = .ok v ∧ S.Solid result v)
    {α : Type} (use : Value κ ρ → Value κ ρ → α) :
    ∀ a ∈ items, ∃ r, (do return use (← meaning S ((x, a) :: env) body) a) =
      (.ok r : Except RuntimeError α) := by
  intro a ha
  obtain ⟨v, hv, -⟩ := hb a (hi a ha)
  exact ⟨use v a, bind_eq_ok.mpr ⟨v, hv, rfl⟩⟩

/-- Arguments have solid values for parameters that take values only. No plan of type Null
has one, so each argument has the type of its parameter. -/
theorem solid_meanings {arguments : List (Plan κ ρ)} {parameters : List (ValueType κ)}
    (fits : Passable S arguments parameters)
    (values : ∀ type ∈ parameters, ∀ a r, type ≠ .function a r)
    (ha : ∀ a ∈ arguments, a.isLambda = false →
      ∃ v, meaning S env a = .ok v ∧ S.Solid (a.type S) v) :
    ∃ vs, meanings S env arguments = .ok vs ∧ List.Forall₂ S.Solid parameters vs := by
  induction fits with
  | nil => exact ⟨[], rfl, .nil⟩
  | @cons a type more rest h _ ih =>
    obtain ⟨value, others⟩ := List.forall_mem_cons.mp values
    obtain ⟨first, later⟩ := List.forall_mem_cons.mp ha
    obtain ⟨vs, hvs, solids⟩ := ih others later
    have va : a.isLambda = false := by
      rcases h with h | h
      · exact isLambda_of_type h value
      · exact isLambda_of_type h (by simp)
    obtain ⟨v, hv, solid⟩ := first va
    refine ⟨v :: vs, ?_, .cons ?_ solids⟩
    · simp only [meanings, bind_eq_ok]
      exact ⟨v, hv, vs, hvs, rfl⟩
    · rcases h with h | h
      · exact h ▸ solid
      · rw [h] at solid
        exact absurd solid (Schema.not_solid_null v)

theorem selectors_subset {arguments : List (Plan κ ρ)} {a : Plan κ ρ} (h : a ∈ arguments) :
    a.selectors ⊆ selectorsOf arguments := by
  induction arguments with
  | nil => cases h
  | cons b more ih =>
    rcases List.mem_cons.mp h with rfl | h
    · exact List.subset_append_left _ _
    · exact List.Subset.trans (ih h) (List.subset_append_right _ _)

/-! ## Plans -/

/-- What is asked of the data for a plan that cannot fail: no Null in it, and no name in
the plan that may give one. -/
structure Sound [DecidableEq κ] (S : Schema κ ρ) (root : Root κ ρ) (but : List String) : Prop where
  answers : S.Answers but
  items : ∀ v ∈ root.items, S.Solid root.element v
  first : Finder.first.name ∈ but
  firstOrDefault : Finder.firstOrDefault.name ∈ but

variable [DecidableEq κ] {root : Root κ ρ} {but : List String}

/-- The finders that are left are content with no item. -/
theorem Sound.finder (sound : Sound S root but) {finder : Finder} (h : finder.name ∉ but) :
    finder = .any ∨ finder = .count := by
  cases finder with
  | first => exact absurd sound.first h
  | firstOrDefault => exact absurd sound.firstOrDefault h
  | any => exact .inl rfl
  | count => exact .inr rfl

/-- A well-formed plan that is no lambda has a solid value. -/
theorem WellFormed.solid_meaning {p : Plan κ ρ} (h : WellFormed S root scope p)
    (vp : p.isLambda = false) (sound : Sound S root but) (hn : ∀ n ∈ p.selectors, n ∉ but)
    (he : Solids S scope env) : ∃ v, meaning S env p = .ok v ∧ S.Solid (p.type S) v := by
  induction h generalizing env with
  | root => exact ⟨_, rfl, Schema.solid_ofItems sound.items⟩
  | text s => exact ⟨_, rfl, Schema.solid_text s⟩
  | number n => exact ⟨_, rfl, Schema.solid_int n⟩
  | parameter bound =>
    obtain ⟨v, hv, solid⟩ := he _ _ bound
    exact ⟨v, by simp only [meaning, hv], solid⟩
  | @member scope target m _ hm ih =>
    have vt : target.isLambda = false := isLambda_of_type rfl fun a r same => by
      rw [same] at hm
      cases hm
    obtain ⟨name, inside⟩ := List.forall_mem_cons.mp hn
    obtain ⟨t, ht, solid⟩ := ih vt inside he
    refine ⟨m.get t, ?_, sound.answers.solid_get hm name solid⟩
    simp only [meaning, bind_eq_ok]
    exact ⟨t, ht, by rw [solid.notNull]; rfl⟩
  | @invoke scope target m arguments _ hm _ fits iht iha =>
    have vt : target.isLambda = false := isLambda_of_type rfl fun a r same => by
      rw [same] at hm
      cases hm
    obtain ⟨own, inside⟩ := List.forall_mem_append.mp hn
    obtain ⟨t, ht, solid⟩ := iht vt (List.forall_mem_cons.mp own).2 he
    obtain ⟨vs, hvs, solids⟩ := solid_meanings fits (sound.answers.parameter hm) fun a ha va =>
      iha a ha va (fun n hmem => inside n (selectors_subset ha hmem)) he
    obtain ⟨r, hr, result⟩ := sound.answers.solid_call hm solid solids
    refine ⟨r, ?_, result⟩
    simp only [meaning, bind_eq_ok]
    refine ⟨t, ht, ?_⟩
    rw [solid.notNull]
    exact bind_eq_ok.mpr ⟨vs, hvs, by rw [hr]; rfl⟩
  | convert w _ numeric ih =>
    have vp := isLambda_of_type rfl fun a r same => by
      rw [same] at numeric
      cases numeric
    obtain ⟨v, hv, solid⟩ := ih vp hn he
    refine ⟨changeWidth w v, ?_, solid_changeWidth solid numeric w⟩
    simp only [meaning, bind_eq_ok]
    exact ⟨v, hv, rfl⟩
  | compare c _ _ vl vr _ ihl ihr =>
    obtain ⟨inl, inr⟩ := List.forall_mem_append.mp hn
    obtain ⟨l, hl, -⟩ := ihl vl inl he
    obtain ⟨r, hr, -⟩ := ihr vr inr he
    refine ⟨.bool (holds l c r), ?_, Schema.solid_bool _⟩
    simp only [meaning, bind_eq_ok]
    exact ⟨l, hl, r, hr, rfl⟩
  | logical c _ _ tl tr ihl ihr =>
    obtain ⟨inl, inr⟩ := List.forall_mem_append.mp hn
    obtain ⟨l, hl, -⟩ := ihl (isLambda_of_type tl (by simp)) inl he
    obtain ⟨r, hr, -⟩ := ihr (isLambda_of_type tr (by simp)) inr he
    have right : (do return .bool (truth (← meaning S env _))) =
      (.ok (.bool (truth r)) : Except RuntimeError (Value κ ρ)) := bind_eq_ok.mpr ⟨r, hr, rfl⟩
    cases c with
    | and =>
      simp only [meaning, bind_eq_ok]
      cases left : truth l with
      | true => exact ⟨_, ⟨l, hl, by rw [left]; exact right⟩, Schema.solid_bool _⟩
      | false => exact ⟨_, ⟨l, hl, by rw [left]; rfl⟩, Schema.solid_bool _⟩
    | or =>
      simp only [meaning, bind_eq_ok]
      cases left : truth l with
      | true => exact ⟨_, ⟨l, hl, by rw [left]; rfl⟩, Schema.solid_bool _⟩
      | false => exact ⟨_, ⟨l, hl, by rw [left]; exact right⟩, Schema.solid_bool _⟩
  | lambda _ _ _ => cases vp
  | @filter scope source body x item _ ts _ tb ihs ihb =>
    obtain ⟨own, inb⟩ := List.forall_mem_append.mp hn
    obtain ⟨a, items, ha, hi, solids⟩ := solid_source SequenceOperator.filter.name ts
      (ihs (isLambda_of_type ts (by simp)) (List.forall_mem_cons.mp own).2 he)
    have vb := isLambda_of_type tb (by simp)
    have inside := fun (v : Value κ ρ) (hv : S.Solid item v) => ihb vb inb (he.bind x hv)
    obtain ⟨kept, hk⟩ := filterM_gives (solid_items solids inside fun v _ => truth v)
    simp only [meaning, bind_eq_ok]
    refine ⟨_, ⟨a, ha, items, hi, kept, hk, rfl⟩, ?_⟩
    simp only [type, ts]
    refine Schema.solid_ofItems fun b hb => solids b ?_
    rw [(filterM_eq_ok hk).2] at hb
    exact List.mem_of_mem_filter hb
  | @select scope source body x item _ ts _ vb ihs ihb =>
    obtain ⟨own, inb⟩ := List.forall_mem_append.mp hn
    obtain ⟨a, items, ha, hi, solids⟩ := solid_source SequenceOperator.select.name ts
      (ihs (isLambda_of_type ts (by simp)) (List.forall_mem_cons.mp own).2 he)
    have inside := fun (v : Value κ ρ) (hv : S.Solid item v) => ihb vb inb (he.bind x hv)
    obtain ⟨images, hm⟩ := mapM_gives fun v hv =>
      (inside v (solids v hv)).imp fun r hr => hr.1
    simp only [meaning, bind_eq_ok]
    refine ⟨_, ⟨a, ha, items, hi, images, hm, rfl⟩, ?_⟩
    refine Schema.solid_ofItems fun b hb => ?_
    obtain ⟨v, hv, image⟩ := mem_of_mapM hm hb
    obtain ⟨r, hr, solid⟩ := inside v (solids v hv)
    cases hr.symm.trans image
    exact solid
  | @sort scope source body x item descending _ ts _ tb ihs ihb =>
    obtain ⟨own, inb⟩ := List.forall_mem_append.mp hn
    obtain ⟨a, items, ha, hi, solids⟩ := solid_source (SequenceOperator.sort descending).name ts
      (ihs (isLambda_of_type ts (by simp)) (List.forall_mem_cons.mp own).2 he)
    have vb := isLambda_of_type rfl fun a r same => by
      rw [same] at tb
      cases tb
    have inside := fun (v : Value κ ρ) (hv : S.Solid item v) => ihb vb inb (he.bind x hv)
    obtain ⟨keyed, hk⟩ := mapM_gives (solid_items solids inside fun v a => (v, a))
    simp only [meaning, bind_eq_ok]
    refine ⟨_, ⟨a, ha, items, hi, keyed, hk, rfl⟩, ?_⟩
    simp only [type, ts]
    refine Schema.solid_ofItems fun b hb => solids b ?_
    obtain ⟨key, hkey⟩ := mem_sortByKeys hb
    obtain ⟨v, hv, keyOf⟩ := mem_of_mapM hk hkey
    obtain ⟨_, _, same⟩ := bind_eq_ok.mp keyOf
    cases same
    exact hv
  | @slice scope source count item s _ ts _ tc ihs ihc =>
    obtain ⟨own, inc⟩ := List.forall_mem_append.mp hn
    obtain ⟨a, items, ha, hi, solids⟩ := solid_source s.name ts
      (ihs (isLambda_of_type ts (by simp)) (List.forall_mem_cons.mp own).2 he)
    obtain ⟨c, hc, count_solid⟩ := ihc (isLambda_of_type tc (by simp)) inc he
    obtain ⟨n, rfl⟩ := (tc ▸ count_solid).int
    simp only [meaning, bind_eq_ok]
    refine ⟨_, ⟨a, ha, items, hi, .int n, hc, n.toInt.toNat, rfl, rfl⟩, ?_⟩
    simp only [type, ts]
    exact Schema.solid_ofItems fun b hb => solids b (mem_cut hb)
  | @find scope source item finder _ ts ihs =>
    obtain ⟨name, inside⟩ := List.forall_mem_cons.mp hn
    obtain ⟨a, items, ha, hi, solids⟩ := solid_source finder.name ts
      (ihs (isLambda_of_type ts (by simp)) inside he)
    obtain ⟨v, hv, solid⟩ := solid_answerOf (sound.finder name) item items
    simp only [meaning, bind_eq_ok, type, ts]
    exact ⟨v, ⟨a, ha, items, hi, hv⟩, solid⟩
  | @findWhere scope source body x item finder _ ts _ tb ihs ihb =>
    obtain ⟨own, inb⟩ := List.forall_mem_append.mp hn
    obtain ⟨name, inside⟩ := List.forall_mem_cons.mp own
    obtain ⟨a, items, ha, hi, solids⟩ := solid_source finder.name ts
      (ihs (isLambda_of_type ts (by simp)) inside he)
    have vb := isLambda_of_type tb (by simp)
    have inside := fun (v : Value κ ρ) (hv : S.Solid item v) => ihb vb inb (he.bind x hv)
    obtain ⟨v, hv, solid⟩ := solid_answerFor (sound.finder name) item
      (solid_items solids inside fun v _ => truth v)
    simp only [meaning, bind_eq_ok, type, ts]
    exact ⟨v, ⟨a, ha, items, hi, hv⟩, solid⟩

/-- A query that names nothing that may give Null has a solid value. -/
theorem solid_execute (sound : Sound S root but) {e : Expr} {p : Plan κ ρ}
    (h : compile S root e = .ok p)
    (hn : ∀ n ∈ e.selectors, ∀ bad ∈ but, Text.equalsIgnoringAsciiCase bad n = false) :
    ∃ v, execute S p = .ok v ∧ S.Solid (p.type S) v := by
  obtain ⟨wf, vp⟩ := wellFormed_compile h
  have names : ∀ n ∈ p.selectors, n ∉ but := by
    intro n hmem bad
    obtain ⟨k, hk, same⟩ := named_compile h n hmem
    rw [hn k hk n bad] at same
    cases same
  obtain ⟨v, hv, solid⟩ := wf.solid_meaning vp sound names solids_nil
  exact ⟨v, by rw [wf.execute_eq, hv]; rfl, solid⟩

/-! ## The law -/

/-- A query over commits that compiles has a value, as long as it asks for no first item
and reads the old path of no file, in whatever case it would write them: nothing on the way
is Null, nor is anything in the value, and no method refuses its arguments. The collection
may have any name. -/
theorem a_query_over_commits_has_a_value (name : String) (commits : List Commit) (e : Expr)
    (p : Plan (Kind Empty) (Record Empty))
    (h : compile Extension.nothing.schema { Root.ofCommits commits with name := name } e = .ok p)
    (hn : ∀ n ∈ e.selectors, ∀ bad ∈ ["First", "FirstOrDefault", "OldPath"],
      Text.equalsIgnoringAsciiCase bad n = false) :
    ∃ v, execute Extension.nothing.schema p = .ok v ∧
      Extension.nothing.schema.Solid (p.type Extension.nothing.schema) v := by
  refine solid_execute ?_ h hn
  exact {
    answers := answers_schema (by simp)
    items := solid_ofCommits commits
    first := by simp [Finder.name]
    firstOrDefault := by simp [Finder.name] }

/-- The subjects of the newest commits that add some text to a file, in capital letters. -/
def recentAdditions : Expr :=
  let adds := .call (.name "f") "AddedContains" [.text "x"]
  let touched := .call (.member (.member (.name "c") "Diff") "Files") "any" [.lambda "f" adds]
  let found := .call (.name "History") "where" [.lambda "c" touched]
  let newest := .call found "OrderByDescending" [.lambda "c" (.member (.name "c") "AuthorWhen")]
  let subject := .call (.member (.name "c") "MessageShort") "ToUpper" []
  .call (.call newest "Take" [.number 2]) "Select" [.lambda "c" subject]

theorem recent_additions_have_a_value :
    ∃ p, compile Extension.nothing.schema { Root.ofCommits [.blank] with name := "History" }
        recentAdditions = .ok p ∧
      (∀ n ∈ recentAdditions.selectors, ∀ bad ∈ ["First", "FirstOrDefault", "OldPath"],
        Text.equalsIgnoringAsciiCase bad n = false) ∧
      ∃ v, execute Extension.nothing.schema p = .ok v ∧
        Extension.nothing.schema.Solid (p.type Extension.nothing.schema) v := by
  have h : ∃ p, compile Extension.nothing.schema
      { Root.ofCommits [.blank] with name := "History" } recentAdditions = .ok p := ⟨_, by cbv⟩
  have hn : ∀ n ∈ recentAdditions.selectors, ∀ bad ∈ ["First", "FirstOrDefault", "OldPath"],
      Text.equalsIgnoringAsciiCase bad n = false := by decide
  obtain ⟨p, h⟩ := h
  exact ⟨p, h, hn, a_query_over_commits_has_a_value "History" [.blank] recentAdditions p h hn⟩

end Plan

end CommitQuery
