-- The operators of sequences are the operations on lists: what each of them gives, and
-- which failure of its lambda it gives instead.
import CommitQuery.Proofs.Plan.Parts

namespace CommitQuery

open Query

variable {κ ρ : Type}

/-! ## Walks that stop -/

namespace Run

variable {α β : Type} {stack : List (Value κ ρ)}

/-- What follows a run depends on nothing but its result and the stack after it. -/
theorem run_bind_congr {m n : Run κ ρ α} (h : m.run stack = n.run stack) (f : α → Run κ ρ β) :
    (m >>= f).run stack = (n >>= f).run stack := by
  rcases hm : m.run stack with ⟨result, after⟩
  rw [hm] at h
  cases result with
  | ok a => rw [run_bind_ok hm, run_bind_ok h.symm]
  | error e => rw [run_bind_error hm, run_bind_error h.symm]

/-- A walk that has found an item, or failed, looks at no item behind. -/
theorem findItem_append {test : β → Run κ ρ Bool} {first : List β}
    (stops : ((findItem test first).run stack).1 ≠ .ok none) (rest : List β) :
    (findItem test (first ++ rest)).run stack = (findItem test first).run stack := by
  induction first generalizing stack with
  | nil => exact absurd rfl stops
  | cons b more ih =>
    rw [findItem] at stops
    rw [List.cons_append, findItem, findItem]
    rcases hb : (test b).run stack with ⟨passes, after⟩
    cases passes with
    | error e => rw [run_bind_error hb, run_bind_error hb]
    | ok passes =>
      rw [run_bind_ok hb] at stops
      rw [run_bind_ok hb, run_bind_ok hb]
      cases passes with
      | true => rfl
      | false => exact ih stops

end Run

namespace Plan

variable {S : Schema κ ρ} {stack items : List (Value κ ρ)}

/-- A finder runs its test on no item behind those that a walk over the first ones ends
among, whatever else the test does: the run is the same without them. -/
theorem answerWhere_append {finder : Finder} (hf : finder ≠ .count)
    {test : Value κ ρ → Run κ ρ Bool} {first : List (Value κ ρ)}
    (stops : ((Run.findItem test first).run stack).1 ≠ .ok none) (rest : List (Value κ ρ)) :
    (answerWhere finder test (first ++ rest)).run stack =
      (answerWhere finder test first).run stack := by
  cases finder with
  | count => exact absurd rfl hf
  | _ => exact Run.run_bind_congr (Run.findItem_append stops rest) _

/-! ## Verdicts -/

/-- Whether a test accepts an item: its lambda gives the condition that holds. -/
def accepted : Except RuntimeError (Value κ ρ) → Bool
  | .ok (.bool true) => true
  | _ => false

/-- Whether a test rejects an item: its lambda gives anything else. -/
def rejected : Except RuntimeError (Value κ ρ) → Bool
  | .ok v => !accepted (.ok v)
  | .error _ => false

/-- A test of an item, from what its lambda comes to. -/
def verdict (result : Except RuntimeError (Value κ ρ)) : Except RuntimeError Bool := do
  return truth (← result)

theorem accepted_ok (v : Value κ ρ) : accepted (.ok v) = truth v := by
  cases v with
  | bool b => cases b <;> rfl
  | _ => rfl

theorem accepted_eq (result : Except RuntimeError (Value κ ρ)) :
    accepted result = ((verdict result).toOption == some true) := by
  cases result with
  | error e => rfl
  | ok v =>
    rw [accepted_ok, verdict]
    show truth v = (some (truth v) == some true)
    cases truth v <;> rfl

theorem verdict_of_accepted {result : Except RuntimeError (Value κ ρ)}
    (h : accepted result = true) : verdict result = .ok true := by
  cases result with
  | error e => cases h
  | ok v =>
    rw [accepted_ok] at h
    exact congrArg Except.ok h

theorem verdict_of_rejected {result : Except RuntimeError (Value κ ρ)}
    (h : rejected result = true) : verdict result = .ok false := by
  cases result with
  | error e => cases h
  | ok v =>
    rw [rejected, accepted_ok, Bool.not_eq_true'] at h
    exact congrArg Except.ok h

/-! ## Calls of a lambda -/

/-- What comes of calling a lambda for every item: the first failure in the order of the
items, or else some value. -/
structure Visits (f : Value κ ρ → Except RuntimeError (Value κ ρ)) (items : List (Value κ ρ))
    (result : Except RuntimeError (Value κ ρ)) (value : Value κ ρ) : Prop where
  fails : ∀ e, FailsFirst f items e → result = .error e
  gives : (∀ a ∈ items, ∃ v, f a = .ok v) → result = .ok value

/-- What comes of calling a lambda up to the first item that it accepts: that item gives the
result, a failure before it does, or else nothing is found. -/
structure Searches (f : Value κ ρ → Except RuntimeError (Value κ ρ)) (items : List (Value κ ρ))
    (result : Except RuntimeError (Value κ ρ)) (found : Value κ ρ → Value κ ρ)
    (missing : Except RuntimeError (Value κ ρ)) : Prop where
  fails : ∀ before a after e, items = before ++ a :: after →
    (∀ b ∈ before, rejected (f b) = true) → f a = .error e → result = .error e
  gives : ∀ before a after, items = before ++ a :: after →
    (∀ b ∈ before, rejected (f b) = true) → accepted (f a) = true → result = .ok (found a)
  misses : (∀ a ∈ items, rejected (f a) = true) → result = missing

variable {f : Value κ ρ → Except RuntimeError (Value κ ρ)}

theorem visits_filterM (use : List (Value κ ρ) → Value κ ρ) :
    Visits f items (do return use (← items.filterM fun a => verdict (f a)))
      (use (items.filter fun a => accepted (f a))) where
  fails e h := bind_eq_error.mpr (.inl (filterM_of_failsFirst (h.map fun _ v => truth v)))
  gives h := by
    obtain ⟨kept, hk⟩ : ∃ kept, items.filterM (fun a => verdict (f a)) = .ok kept := by
      refine filterM_gives fun a ha => ?_
      obtain ⟨v, hv⟩ := h a ha
      exact ⟨truth v, by rw [hv]; rfl⟩
    refine bind_eq_ok.mpr ⟨kept, hk, ?_⟩
    simp only [(filterM_eq_ok hk).2, accepted_eq]
    rfl

theorem searches_findM? {result : Except RuntimeError (Value κ ρ)}
    (rest : Option (Value κ ρ) → Except RuntimeError (Value κ ρ)) {found : Value κ ρ → Value κ ρ}
    {missing : Except RuntimeError (Value κ ρ)}
    (h : result = (do rest (← items.findM? fun a => verdict (f a))))
    (some : ∀ a, rest (some a) = .ok (found a)) (none : rest none = missing) :
    Searches f items result found missing where
  fails before a after e hi hb ha := by
    rw [h, hi, findM?_append fun b hmem => verdict_of_rejected (hb b hmem), List.findM?, ha]
    rfl
  gives before a after hi hb ha := by
    rw [h, hi, findM?_append fun b hmem => verdict_of_rejected (hb b hmem), List.findM?,
      verdict_of_accepted ha]
    exact some a
  misses hb := by
    have all := findM?_append (fun b hmem => verdict_of_rejected (hb b hmem)) []
    rw [List.append_nil] at all
    rw [h, all]
    exact none

/-! ## The operations -/

variable (S)

/-- What an operator of sequences is to come to on a stack where its source has some
items, by the operations on lists. Sorting has laws of its own. -/
def Operates (stack items : List (Value κ ρ)) : Plan κ ρ → Prop
  | .filter source b body =>
    Visits (called S stack b body) items (outcome S stack (.filter source b body))
      (.ofItems (source.type S).element
        (items.filter fun a => accepted (called S stack b body a)))
  | .select source b body =>
    (∀ e, FailsFirst (called S stack b body) items e →
      outcome S stack (.select source b body) = .error e) ∧
    ∀ images, items.map (called S stack b body) = images.map .ok →
      outcome S stack (.select source b body) = .ok (.ofItems (body.type S) images)
  | .slice source s count =>
    (∀ e, outcome S stack count = .error e → outcome S stack (.slice source s count) = .error e) ∧
    ∀ v n, outcome S stack count = .ok v → v.toInt? = some n →
      ∃ taken rest, taken ++ rest = items ∧ (taken.length : Int) = min (max n 0) items.length ∧
        outcome S stack (.slice source .take count) =
          .ok (.ofItems (source.type S).element taken) ∧
        outcome S stack (.slice source .skip count) =
          .ok (.ofItems (source.type S).element rest)
  | .find source .first =>
    outcome S stack (.find source .first) = items.head?.elim (.error .noElement) .ok
  | .find source .firstOrDefault =>
    outcome S stack (.find source .firstOrDefault) = .ok (items.head?.getD .null)
  | .find source .any => outcome S stack (.find source .any) = .ok (.bool !items.isEmpty)
  | .find source .count =>
    ∃ n : Int32, n.toInt = items.length ∧ outcome S stack (.find source .count) = .ok (.int n)
  | .findWhere source .first b body =>
    Searches (called S stack b body) items (outcome S stack (.findWhere source .first b body))
      id (.error .noMatch)
  | .findWhere source .firstOrDefault b body =>
    Searches (called S stack b body) items
      (outcome S stack (.findWhere source .firstOrDefault b body)) id (.ok .null)
  | .findWhere source .any b body =>
    Searches (called S stack b body) items (outcome S stack (.findWhere source .any b body))
      (fun _ => .bool true) (.ok (.bool false))
  | .findWhere source .count b body =>
    ∃ n : Int32, n.toInt = (items.filter fun a => accepted (called S stack b body a)).length ∧
      Visits (called S stack b body) items (outcome S stack (.findWhere source .count b body))
        (.int n)
  | _ => True

variable {S} [DecidableEq κ] {root : Root κ ρ} {scope : Scope κ} {env : Environment κ ρ}
  {source body count : Plan κ ρ} {b : Binder κ}

section Outcomes

variable (hm : Matches scope stack env) (hs : Supplies S stack source items)
include hm hs

/-- An operator whose source gives items comes to what it does with them. -/
theorem WellFormed.on_items {α : Type} (h : WellFormed S root scope source) (operator : String)
    (use : List (Value κ ρ) → Except RuntimeError α) :
    (do use (← itemsOf S operator (← meaning S env source))) = use items := by
  obtain ⟨element, origin, hs⟩ := hs
  rw [h.outcome_eq hm] at hs
  rw [hs]
  rfl

theorem WellFormed.outcome_filter (h : WellFormed S root scope (.filter source b body)) :
    outcome S stack (.filter source b body) = (do
      let kept ← items.filterM fun a => verdict (called S stack b body a)
      return .ofItems (source.type S).element kept) := by
  rw [h.outcome_eq hm, meaning]
  cases h with
  | filter wf _ hb _ =>
    rw [hb.called_eq hm]
    exact wf.on_items hm hs _ _

theorem WellFormed.outcome_select (h : WellFormed S root scope (.select source b body)) :
    outcome S stack (.select source b body) =
      (do return .ofItems (body.type S) (← items.mapM (called S stack b body))) := by
  rw [h.outcome_eq hm, meaning]
  cases h with
  | select wf _ hb _ =>
    rw [hb.called_eq hm]
    exact wf.on_items hm hs _ _

theorem WellFormed.outcome_slice {s : Slice} (h : WellFormed S root scope (.slice source s count)) :
    outcome S stack (.slice source s count) = (do
      let n ← sizeOf? S (← outcome S stack count)
      return .ofItems (source.type S).element (cut s n items)) := by
  rw [h.outcome_eq hm, meaning]
  cases h with
  | slice _ wf _ hc _ =>
    rw [hc.outcome_eq hm]
    exact wf.on_items hm hs s.name fun items => do
      let n ← sizeOf? S (← meaning S env count)
      return Value.ofItems (source.type S).element (cut s n items)

theorem WellFormed.outcome_find {finder : Finder}
    (h : WellFormed S root scope (.find source finder)) :
    outcome S stack (.find source finder) = answerOf finder items := by
  rw [h.outcome_eq hm, meaning]
  cases h with
  | find _ wf _ => exact wf.on_items hm hs finder.name (answerOf finder)

theorem WellFormed.outcome_findWhere {finder : Finder}
    (h : WellFormed S root scope (.findWhere source finder b body)) :
    outcome S stack (.findWhere source finder b body) =
      answerFor finder (fun a => verdict (called S stack b body a)) items := by
  rw [h.outcome_eq hm, meaning]
  cases h with
  | findWhere _ wf _ hb _ =>
    rw [hb.called_eq hm]
    exact wf.on_items hm hs finder.name (answerFor finder _)

end Outcomes

/-- A slice keeps or drops as many items as its count says, none for a negative one. -/
theorem WellFormed.outcome_cut {s : Slice} (h : WellFormed S root scope (.slice source s count))
    (hm : Matches scope stack env) (hs : Supplies S stack source items) {v : Value κ ρ} {n : Int}
    (hv : outcome S stack count = .ok v) (hn : v.toInt? = some n) :
    outcome S stack (.slice source s count) =
      .ok (.ofItems (source.type S).element (cut s n.toNat items)) := by
  have size : sizeOf? S v = .ok n.toNat := by rw [sizeOf?, hn]
  rw [h.outcome_slice hm hs, hv]
  exact bind_eq_ok.mpr ⟨v, rfl, bind_eq_ok.mpr ⟨n.toNat, size, rfl⟩⟩

/-- The operators of a well-formed plan are the operations on lists. -/
theorem WellFormed.operates {q : Plan κ ρ} {operator : String} (h : WellFormed S root scope q)
    (ho : q.operator? = some (operator, source)) (hm : Matches scope stack env)
    (hs : Supplies S stack source items) (few : items.length < 2 ^ 31) :
    Operates S stack items q := by
  cases h with
  | filter wf ts hb tb =>
    cases ho
    have own := (WellFormed.filter wf ts hb tb).outcome_filter hm hs
    simp only [Operates, own]
    exact visits_filterM _
  | select wf ts hb vb =>
    cases ho
    have own := (WellFormed.select wf ts hb vb).outcome_select hm hs
    simp only [Operates, own]
    refine ⟨fun e fails => ?_, fun images same => ?_⟩
    · exact bind_eq_error.mpr (.inl (mapM_of_failsFirst fails))
    · exact bind_eq_ok.mpr ⟨images, mapM_of_map same, rfl⟩
  | sort => trivial
  | slice s wf ts hc tc =>
    cases ho
    refine ⟨fun e fails => ?_, fun v n hv hn => ?_⟩
    · rw [(WellFormed.slice s wf ts hc tc).outcome_slice hm hs, fails]
      rfl
    · refine ⟨items.take n.toNat, items.drop n.toNat, List.take_append_drop _ _, ?_, ?_, ?_⟩
      · rw [List.length_take]
        omega
      · exact (WellFormed.slice .take wf ts hc tc).outcome_cut hm hs hv hn
      · exact (WellFormed.slice .skip wf ts hc tc).outcome_cut hm hs hv hn
  | find finder wf ts =>
    cases ho
    have own := (WellFormed.find finder wf ts).outcome_find hm hs
    cases finder with
    | first =>
      rw [Operates, own]
      cases items <;> rfl
    | firstOrDefault => exact own
    | any =>
      rw [Operates, own]
      cases items <;> rfl
    | count => exact ⟨.ofNat items.length, Int32.toInt_ofNat_of_lt few, own⟩
  | findWhere finder wf ts hb tb =>
    cases ho
    have own := (WellFormed.findWhere finder wf ts hb tb).outcome_findWhere hm hs
    cases finder with
    | first => exact searches_findM? (foundOr .noMatch) own (fun _ => rfl) rfl
    | firstOrDefault => exact searches_findM? (fun o => .ok (o.getD .null)) own (fun _ => rfl) rfl
    | any => exact searches_findM? (fun o => .ok (.bool o.isSome)) own (fun _ => rfl) rfl
    | count =>
      refine ⟨_, Int32.toInt_ofNat_of_lt ?_, ?_⟩
      · exact Nat.lt_of_le_of_lt (List.length_filter_le _ _) few
      · rw [own]
        exact visits_filterM fun kept => .ofCount kept.length
  | _ => cases ho

/-! ## Pages -/

/-- Some items of a sequence, after others that are skipped. -/
def page (source : Plan κ ρ) (skipped size : Nat) : Plan κ ρ :=
  .slice (.slice source .skip (.constant (.int (.ofNat skipped)))) .take
    (.constant (.int (.ofNat size)))

theorem WellFormed.outcome_page {item : ValueType κ} (h : WellFormed S root scope source)
    (ts : source.type S = .sequence item) (hm : Matches scope stack env)
    (hs : Supplies S stack source items) {skipped size : Nat} (hskip : skipped < 2 ^ 31)
    (hsize : size < 2 ^ 31) :
    outcome S stack (source.page skipped size) =
      .ok (.ofItems (source.type S).element ((items.drop skipped).take size)) := by
  have skip := WellFormed.slice .skip h ts (.number (.ofNat skipped)) rfl
  have take := WellFormed.slice .take skip ts (.number (.ofNat size)) rfl
  have rest := skip.outcome_cut hm hs rfl (congrArg some (Int32.toInt_ofNat_of_lt hskip))
  exact take.outcome_cut hm ⟨_, _, rest⟩ rfl (congrArg some (Int32.toInt_ofNat_of_lt hsize))

/-- A list in pages of one size, down to the last that may hold an item. -/
def pagesOf {α : Type} (items : List α) (size : Nat) : List (List α) :=
  (List.range (items.length / size + 1)).map fun i => (items.drop (i * size)).take size

section Pages

variable {α : Type} (items : List α) {size : Nat}

/-- The first pages, one after the other, are the front of the list. -/
theorem flatMap_pages (size m : Nat) :
    (List.range m).flatMap (fun i => (items.drop (i * size)).take size) =
      items.take (m * size) := by
  induction m with
  | zero => simp
  | succ m ih =>
    rw [List.range_succ, List.flatMap_append, ih, List.flatMap_singleton, Nat.succ_mul,
      List.take_add]

theorem length_lt_pages (h : 0 < size) : items.length < (items.length / size + 1) * size := by
  rw [Nat.mul_comm]
  exact Nat.lt_mul_div_succ items.length h

theorem flatten_pagesOf (h : 0 < size) : (pagesOf items size).flatten = items := by
  rw [pagesOf, ← List.flatMap_def, flatMap_pages]
  exact List.take_of_length_le (Nat.le_of_lt (length_lt_pages items h))

/-- Behind the last page there are only empty ones. -/
theorem getD_pagesOf (h : 0 < size) (i : Nat) :
    (pagesOf items size)[i]?.getD [] = (items.drop (i * size)).take size := by
  rw [pagesOf, List.getElem?_map]
  by_cases hi : i < items.length / size + 1
  · rw [List.getElem?_range hi]
    rfl
  · have far : items.length ≤ i * size := by
      have := Nat.mul_le_mul_right size (Nat.le_of_not_lt hi)
      have := length_lt_pages items h
      omega
    rw [List.getElem?_eq_none (by simpa using hi), List.drop_eq_nil_of_le far]
    simp

theorem mul_le_of_lt_length_pagesOf {i : Nat} (hi : i < (pagesOf items size).length) :
    i * size ≤ items.length := by
  rw [pagesOf, List.length_map, List.length_range, Nat.lt_succ_iff] at hi
  exact (Nat.mul_le_mul_right size hi).trans (Nat.div_mul_le_self _ _)

end Pages

theorem compileIn_slice {e : Expr} {p : Plan κ ρ} {item : ValueType κ}
    (value : e.isLambda = false) (h : compileIn S root scope none e = .ok p)
    (tp : p.type S = .sequence item) (s : Slice) (n : Int32) :
    compileIn S root scope none (.call e s.name [.number n]) =
      .ok (.slice p s (.constant (.int n))) := by
  have known : SequenceOperator.ofName? s.name = some (.slice s) := by cases s <;> decide
  have place : requireValue .methodTarget e = .ok () := by rw [requireValue, value]; rfl
  rw [compileIn, place, h]
  simp only [bind, Except.bind, tp, known]
  rfl

end Plan

/-- The query for some items of a sequence, after others that are skipped. -/
def Query.Expr.page (e : Expr) (skipped size : Nat) : Expr :=
  .call (.call e "Skip" [.number (.ofNat skipped)]) "Take" [.number (.ofNat size)]

namespace Plan

variable {S : Schema κ ρ} [DecidableEq κ] {root : Root κ ρ}

/-- A page of a query's sequence is what the query for it compiles to. -/
theorem compile_page {e : Expr} {p : Plan κ ρ} {item : ValueType κ}
    (h : compile S root e = .ok p) (tp : p.type S = .sequence item) (skipped size : Nat) :
    compile S root (e.page skipped size) = .ok (p.page skipped size) := by
  obtain ⟨_, value, h⟩ := bind_eq_ok.mp h
  have skip := compileIn_slice (isLambda_of_requireValue value) h tp .skip (.ofNat skipped)
  exact compileIn_slice rfl skip tp .take (.ofNat size)

/-! ## The law -/

/-- Wherever a part of a compiled plan gives the items of a sequence, the operators that are
called on it are the operations on lists, with the failures of their lambdas; a lambda may be
any function of an item. The pages of one size together are the sequence, behind them all
pages are empty, and they are what the queries for them compile to. A finder runs its test on
no item behind the first one that the test accepts or fails on, whatever else the test does:
once a walk over the first items has ended so, the run is the same with others behind them. -/
theorem a_plan_works_on_sequences_as_on_lists (e : Expr) (p : Plan κ ρ)
    (h : compile S root e = .ok p) (scope : Scope κ) (source : Plan κ ρ)
    (part : Part p scope source) (stack items : List (Value κ ρ))
    (depth : stack.length = scope.length) (hs : Supplies S stack source items)
    (few : items.length < 2 ^ 31) :
    (∀ q operator, Part p scope q → q.operator? = some (operator, source) →
      Operates S stack items q) ∧
    (∀ item, source.type S = .sequence item → ∀ size, 0 < size → size < 2 ^ 31 →
      ∃ pages : List (List (Value κ ρ)), pages.flatten = items ∧
        (∀ i < pages.length, i * size < 2 ^ 31) ∧
        ∀ i, i * size < 2 ^ 31 → outcome S stack (source.page (i * size) size) =
          .ok (.ofItems (source.type S).element (pages[i]?.getD []))) ∧
    (∀ item, p.type S = .sequence item → ∀ skipped size,
      compile S root (e.page skipped size) = .ok (p.page skipped size)) ∧
    ∀ (finder : Finder) (test : Value κ ρ → Run κ ρ Bool) (first rest : List (Value κ ρ)),
      finder ≠ .count → ((Run.findItem test first).run stack).1 ≠ .ok none →
      (answerWhere finder test (first ++ rest)).run stack =
        (answerWhere finder test first).run stack := by
  obtain ⟨wf, -⟩ := wellFormed_compile h
  obtain ⟨env, hm⟩ := wf.matches_part part stack depth
  refine ⟨?_, ?_, ?_, ?_⟩
  · intro q operator hq ho
    exact (wf.part hq).operates ho hm hs few
  · intro item ts size pos hsize
    refine ⟨pagesOf items size, flatten_pagesOf items pos, fun i hi => ?_, fun i hi => ?_⟩
    · exact Nat.lt_of_le_of_lt (mul_le_of_lt_length_pagesOf items hi) few
    · rw [getD_pagesOf items pos]
      exact (wf.part part).outcome_page ts hm hs hi hsize
  · intro item tp skipped size
    exact compile_page h tp skipped size
  · intro finder test first rest hf stops
    exact answerWhere_append hf stops rest

/-- The commits whose author has a name. -/
def signed : Expr :=
  .call (.name "Commits") "Where" [.lambda "c"
    (.binary (.member (.name "c") "AuthorName") (.compare .notEqual) (.text ""))]

theorem the_signed_commits_are_filtered :
    let commits := [Commit.blank, { Commit.blank with authorName := "Ada" }]
    let root : Root (Kind Empty) (Record Empty) := .ofCommits commits
    ∃ p, compile Extension.nothing.schema root signed = .ok p ∧
      Part p [] (.constant root.value) ∧
      Supplies Extension.nothing.schema [] (.constant root.value) root.items ∧
      root.items.length < 2 ^ 31 ∧ Operates Extension.nothing.schema [] root.items p := by
  intro commits root
  have h : ∃ b body, compile Extension.nothing.schema root signed =
      .ok (.filter (.constant root.value) b body) := ⟨_, _, by cbv⟩
  obtain ⟨b, body, h⟩ := h
  have part : Part (.filter (.constant root.value) b body) [] (.constant root.value) :=
    .operand .whole (by simp [operands])
  have hs : Supplies Extension.nothing.schema [] (.constant root.value) root.items :=
    ⟨_, _, rfl⟩
  have few : root.items.length < 2 ^ 31 := by simp [root, commits, Root.ofCommits]
  have law := a_plan_works_on_sequences_as_on_lists signed _ h [] _ part [] root.items rfl hs few
  exact ⟨_, h, part, hs, few, law.1 _ _ .whole rfl⟩

end Plan

end CommitQuery
