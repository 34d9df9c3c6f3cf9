-- Queries in two steps and in one: items that are kept twice or once, that are kept and
-- then asked about or asked about at once. The conditions may fail on some items, so what
-- agrees depends on the order in which they are tried, and on where the trying ends.
import CommitQuery.Proofs.Plan.Compiled
import CommitQuery.Proofs.Plan.Operators

namespace CommitQuery

open Query

variable {κ ρ : Type}

/-! ## Walks over a list -/

section Walks

variable {ε α : Type} {f g : α → Except ε Bool}

/-- The test that two tests are together, the second one only where the first holds. -/
def both (f g : α → Except ε Bool) (a : α) : Except ε Bool := do
  if ← f a then g a else return false

theorem both_eq_ok {a : α} {passes : Bool} :
    both f g a = .ok passes ↔
      (f a = .ok true ∧ g a = .ok passes) ∨ (f a = .ok false ∧ passes = false) := by
  unfold both
  cases f a with
  | error e => simp [bind, Except.bind]
  | ok holds => cases holds <;> simp [bind, Except.bind, pure, Except.pure, eq_comm]

theorem filterM_cons_eq_ok {a : α} {rest kept : List α} :
    (a :: rest).filterM f = .ok kept ↔ ∃ passes more, f a = .ok passes ∧
      rest.filterM f = .ok more ∧ kept = if passes then a :: more else more := by
  rw [filterM_cons]
  simp only [bind_eq_ok]
  constructor
  · rintro ⟨passes, ha, more, hmore, h⟩
    cases h
    exact ⟨passes, more, ha, hmore, rfl⟩
  · rintro ⟨passes, more, ha, hmore, rfl⟩
    exact ⟨passes, ha, more, hmore, rfl⟩

/-- Keeping in two passes is keeping in one, by induction on the items: an item that the
first pass drops is not tried by the second test either way. -/
theorem filterM_both {items kept : List α} :
    items.filterM (both f g) = .ok kept ↔
      ∃ first, items.filterM f = .ok first ∧ first.filterM g = .ok kept := by
  induction items generalizing kept with
  | nil =>
    constructor
    · intro h
      exact ⟨[], rfl, h⟩
    · rintro ⟨first, h, hk⟩
      cases h
      exact hk
  | cons a rest ih =>
    simp only [filterM_cons_eq_ok, both_eq_ok, ih]
    constructor
    · rintro ⟨passes, more, ⟨ha, hb⟩ | ⟨ha, rfl⟩, ⟨first, hfirst, hmore⟩, rfl⟩
      · exact ⟨a :: first, ⟨true, first, ha, hfirst, rfl⟩,
          filterM_cons_eq_ok.mpr ⟨passes, more, hb, hmore, rfl⟩⟩
      · exact ⟨first, ⟨false, first, ha, hfirst, rfl⟩, hmore⟩
    · rintro ⟨_, ⟨passes, first, ha, hfirst, rfl⟩, hk⟩
      cases passes with
      | true =>
        obtain ⟨passes, more, hb, hmore, rfl⟩ := filterM_cons_eq_ok.mp hk
        exact ⟨passes, more, .inl ⟨ha, hb⟩, ⟨first, hfirst, hmore⟩, rfl⟩
      | false => exact ⟨false, kept, .inr ⟨ha, rfl⟩, ⟨first, hfirst, hk⟩, rfl⟩

/-- The first of the items that are kept is the one that a search finds. -/
theorem findM?_of_filterM {items kept : List α} (h : items.filterM f = .ok kept) :
    items.findM? f = .ok kept.head? := by
  induction items generalizing kept with
  | nil =>
    cases h
    rfl
  | cons a rest ih =>
    obtain ⟨passes, more, ha, hmore, rfl⟩ := filterM_cons_eq_ok.mp h
    rw [List.findM?, ha]
    cases passes with
    | true => rfl
    | false => exact ih hmore

end Walks

namespace Query.Expr

/-! ## Queries -/

/-- The items of a sequence that a condition holds of. -/
def filtered (s : Expr) (x : String) (a : Expr) : Expr := .call s "Where" [.lambda x a]

/-- A question about the items of a sequence. -/
def asked (s : Expr) (f : Finder) : Expr := .call s f.name []

/-- A question about the items of a sequence that a condition holds of. -/
def askedWhere (s : Expr) (f : Finder) (x : String) (a : Expr) : Expr :=
  .call s f.name [.lambda x a]

end Query.Expr

/-- A failure that does not say of which operator. -/
def RuntimeError.unattributed : RuntimeError → RuntimeError
  | .operatorOfNull _ => .operatorOfNull ""
  | .operatorOfOther _ type => .operatorOfOther "" type
  | e => e

/-- An error that does not say of which operator, nor what that one asks for. -/
def QueryError.unattributed : QueryError → QueryError
  | .argumentShape _ _ => .argumentShape "" ""
  | .runtime e => .runtime e.unattributed
  | e => e

theorem mapError_eq_ok {ε ε' α : Type} {g : ε → ε'} {result : Except ε α} {out : α} :
    result.mapError g = .ok out ↔ result = .ok out := by
  cases result <;> simp [Except.mapError]

/-- What an error of a run says but for the operator is what its failure says. -/
theorem mapError_unattributed {α : Type} (result : Except RuntimeError α) :
    (result.mapError QueryError.runtime).mapError QueryError.unattributed =
      (result.mapError RuntimeError.unattributed).mapError QueryError.runtime := by
  cases result <;> rfl

namespace Plan

section Items

variable {S : Schema κ ρ} {stack : List (Value κ ρ)} {source : Plan κ ρ} {v : Value κ ρ}
  {f : Finder}

/-- What a finder says about items that were kept it says about those that pass the test. -/
theorem answerFor_of_filterM {passes : Value κ ρ → Except RuntimeError Bool}
    {items kept : List (Value κ ρ)} (hk : items.filterM passes = .ok kept)
    (h : answerOf f kept = .ok v) : answerFor f passes items = .ok v := by
  have found := findM?_of_filterM hk
  cases f with
  | first =>
    refine bind_eq_ok.mpr ⟨kept.head?, found, ?_⟩
    cases kept with
    | nil => cases h
    | cons a more => exact h
  | firstOrDefault | any => exact bind_eq_ok.mpr ⟨kept.head?, found, h⟩
  | count => exact bind_eq_ok.mpr ⟨kept, hk, h⟩

/-- An operator gives a result only if there are items to give it for. -/
theorem on_items_eq_ok {α : Type} {operator : String}
    {use : List (Value κ ρ) → Except RuntimeError α} {out : α} :
    (do use (← itemsOf S operator (← outcome S stack source))) = .ok out ↔
      ∃ items, Supplies S stack source items ∧ use items = .ok out := by
  simp only [bind_eq_ok]
  constructor
  · rintro ⟨w, hw, items, hi, h⟩
    obtain ⟨element, origin, rfl⟩ := itemsOf_eq_ok hi
    cases hi
    exact ⟨items, ⟨element, origin, hw⟩, h⟩
  · rintro ⟨items, ⟨element, origin, hw⟩, h⟩
    exact ⟨_, hw, items, rfl, h⟩

/-- Every sequence has its length as a member. -/
theorem findMember?_count (S : Schema κ ρ) (item : ValueType κ) :
    ∃ m : Member κ ρ, S.findMember? (.sequence item) "Count" = some m ∧
      ∀ element items origin, m.get (.sequence element items origin) = .ofCount items.length := by
  have same : Text.equalsIgnoringAsciiCase "Count" "Count" = true := by decide
  refine ⟨Schema.sequenceMembers.get ⟨0, Nat.zero_lt_one⟩, ?_, fun _ _ _ => rfl⟩
  exact List.find?_cons_of_pos same

end Items

variable [DecidableEq κ] (S : Schema κ ρ) (root : Root κ ρ) (scope : Scope κ)
  (element : Option (ValueType κ))

/-- Whether a part of a query compiles. -/
def Compiles (e : Expr) : Prop := ∃ p, compileIn S root scope element e = .ok p

/-- Parts that both compile, or that have the same error but for the operator it names. -/
def CompileAlike (e e' : Expr) : Prop :=
  (Compiles S root scope element e ↔ Compiles S root scope element e') ∧
    ∀ bad bad', compileIn S root scope element e = .error bad →
      compileIn S root scope element e' = .error bad' → bad.unattributed = bad'.unattributed

/-- What a part of a query comes to on a stack. -/
def resultIn (stack : List (Value κ ρ)) (e : Expr) : Except QueryError (Value κ ρ) := do
  let p ← compileIn S root scope element e
  (outcome S stack p).mapError .runtime

variable {S root scope element} {stack : List (Value κ ρ)} {env : Environment κ ρ}
  {source body l r p : Plan κ ρ} {item : ValueType κ} {s a c : Expr} {x : String}
  {v : Value κ ρ} {f : Finder}

/-! ## Compiled conditions -/

theorem requireValue_eq_ok {place : LambdaPlace} {e : Expr} {u : Unit} :
    requireValue place e = .ok u ↔ e.isLambda = false := by
  refine ⟨isLambda_of_requireValue, fun value => ?_⟩
  rw [requireValue, value]
  rfl

variable (S root scope item) in
/-- The body of a lambda that an operator is to call with its items. -/
def bodyIn (x : String) (a : Expr) : Except QueryError (Plan κ ρ) := do
  requireValue .lambdaBody a
  compileIn S root (scope.bind x item :: scope) (some item) a

variable (S root scope item) in
/-- The plan of a lambda's body that is a condition. -/
def Condition (x : String) (a : Expr) (body : Plan κ ρ) : Prop :=
  bodyIn S root scope item x a = .ok body ∧ body.type S = .bool

theorem condition_iff : Condition S root scope item x a body ↔ a.isLambda = false ∧
    compileIn S root (scope.bind x item :: scope) (some item) a = .ok body ∧
      body.type S = .bool := by
  simp only [Condition, bodyIn, bind_eq_ok, requireValue_eq_ok]
  constructor
  · rintro ⟨⟨_, value, h⟩, bool⟩
    exact ⟨value, h, bool⟩
  · rintro ⟨value, h, bool⟩
    exact ⟨⟨(), value, h⟩, bool⟩

theorem Condition.wellFormed (h : Condition S root scope item x a body) :
    WellFormed S root (scope.bind x item :: scope) body :=
  (wellFormed_compileIn (condition_iff.mp h).2.1).1

/-- A conjunction is a condition when both of its sides are. -/
theorem condition_and : Condition S root scope item x (.binary a (.connect .and) c) p ↔
    ∃ l r, Condition S root scope item x a l ∧ Condition S root scope item x c r ∧
      p = .logical l .and r := by
  simp only [condition_iff, compileIn, bind_eq_ok, requireValue_eq_ok, ofOperator]
  constructor
  · rintro ⟨-, ⟨_, va, l, hl, _, vc, r, hr, h⟩, -⟩
    split at h
    · rename_i types
      cases h
      exact ⟨l, r, ⟨va, hl, types.1⟩, ⟨vc, hr, types.2⟩, rfl⟩
    · cases h
  · rintro ⟨l, r, ⟨va, hl, tl⟩, ⟨vc, hr, tr⟩, rfl⟩
    exact ⟨rfl, ⟨(), va, l, hl, (), vc, r, hr, if_pos ⟨tl, tr⟩⟩, rfl⟩

/-- An operator that asks for a condition compiles with one. -/
theorem ofLambda_eq_ok {op : SequenceOperator} {node : Plan κ ρ → Plan κ ρ}
    (asks : ∀ body, ofLambda S source item op (scope.bind x item) body =
      if body.type S = .bool then .ok (node body) else badArgument S item op) :
    (do ofLambda S source item op (scope.bind x item) (← bodyIn S root scope item x a)) = .ok p ↔
      ∃ body, Condition S root scope item x a body ∧ p = node body := by
  simp only [bind_eq_ok, asks, Condition]
  constructor
  · rintro ⟨body, hb, h⟩
    split at h
    · rename_i bool
      cases h
      exact ⟨body, ⟨hb, bool⟩, rfl⟩
    · cases h
  · rintro ⟨body, ⟨hb, bool⟩, rfl⟩
    exact ⟨body, hb, if_pos bool⟩

theorem compileIn_member_eq {field : String} {m : Member κ ρ} (value : s.isLambda = false)
    (hs : compileIn S root scope element s = .ok source)
    (hm : S.findMember? (source.type S) field = some m) :
    compileIn S root scope element (.member s field) = .ok (.member source m) := by
  have place : requireValue .memberTarget s = .ok () := requireValue_eq_ok.mpr value
  rw [compileIn, place, hs]
  show ofMember S source field = _
  rw [ofMember, hm]

/-- A call of what does not compile does not compile either. -/
theorem compileIn_call_error {target : Expr} {method : String} {arguments : List Expr}
    {bad : QueryError} (value : target.isLambda = false)
    (h : compileIn S root scope element target = .error bad) :
    compileIn S root scope element (.call target method arguments) = .error bad := by
  have place : requireValue .methodTarget target = .ok () := requireValue_eq_ok.mpr value
  rw [compileIn, place, h]
  rfl

section Compiled

variable (hs : compileIn S root scope element s = .ok source)
  (ts : source.type S = .sequence item)
include hs ts

theorem isLambda_sequence : s.isLambda = false := by
  rw [← (wellFormed_compileIn hs).2]
  exact isLambda_of_type ts nofun

theorem compileIn_operator (op : SequenceOperator) (arguments : List Expr) :
    compileIn S root scope element (.call s op.name arguments) =
      compileOperator S root scope source item op arguments := by
  have known : SequenceOperator.ofName? op.name = some op := by
    rcases op with _ | _ | (_ | _) | (_ | _) | (_ | _ | _ | _) <;> decide
  have place : requireValue .methodTarget s = .ok () :=
    requireValue_eq_ok.mpr (isLambda_sequence hs ts)
  rw [compileIn, place, hs]
  simp only [bind, Except.bind, ts, known]

theorem compileIn_filtered (x : String) (a : Expr) :
    compileIn S root scope element (s.filtered x a) = (do
      ofLambda S source item .filter (scope.bind x item) (← bodyIn S root scope item x a)) := by
  refine (compileIn_operator hs ts .filter [.lambda x a]).trans ?_
  simp only [compileOperator, bodyIn, bind_assoc]

theorem compileIn_askedWhere (f : Finder) (x : String) (a : Expr) :
    compileIn S root scope element (s.askedWhere f x a) = (do
      ofLambda S source item (.find f) (scope.bind x item) (← bodyIn S root scope item x a)) := by
  refine (compileIn_operator hs ts (.find f) [.lambda x a]).trans ?_
  simp only [compileOperator, bodyIn, bind_assoc]

theorem compileIn_asked (f : Finder) :
    compileIn S root scope element (s.asked f) = .ok (.find source f) := by
  refine (compileIn_operator hs ts (.find f) []).trans ?_
  simp only [compileOperator]

theorem compileIn_filtered_eq_ok : compileIn S root scope element (s.filtered x a) = .ok p ↔
    ∃ body, Condition S root scope item x a body ∧
      p = .filter source (scope.bind x item) body := by
  rw [compileIn_filtered hs ts]
  exact ofLambda_eq_ok fun _ => rfl

/-- The condition after a condition is compiled in the same scope as before it. -/
theorem compileIn_filtered_twice :
    compileIn S root scope element ((s.filtered x a).filtered x c) = .ok p ↔
      ∃ l r, Condition S root scope item x a l ∧ Condition S root scope item x c r ∧
        p = .filter (.filter source (scope.bind x item) l) (scope.bind x item) r := by
  constructor
  · intro h
    obtain ⟨first, hfirst, -⟩ := compileIn_call h
    obtain ⟨l, hl, rfl⟩ := (compileIn_filtered_eq_ok hs ts).mp hfirst
    obtain ⟨r, hr, rfl⟩ := (compileIn_filtered_eq_ok hfirst ts).mp h
    exact ⟨l, r, hl, hr, rfl⟩
  · rintro ⟨l, r, hl, hr, rfl⟩
    have hfirst := (compileIn_filtered_eq_ok hs ts).mpr ⟨l, hl, rfl⟩
    exact (compileIn_filtered_eq_ok hfirst ts).mpr ⟨r, hr, rfl⟩

theorem compileIn_filtered_and :
    compileIn S root scope element (s.filtered x (.binary a (.connect .and) c)) = .ok p ↔
      ∃ l r, Condition S root scope item x a l ∧ Condition S root scope item x c r ∧
        p = .filter source (scope.bind x item) (.logical l .and r) := by
  rw [compileIn_filtered_eq_ok hs ts]
  constructor
  · rintro ⟨_, h, rfl⟩
    obtain ⟨l, r, hl, hr, rfl⟩ := condition_and.mp h
    exact ⟨l, r, hl, hr, rfl⟩
  · rintro ⟨l, r, hl, hr, rfl⟩
    exact ⟨_, condition_and.mpr ⟨l, r, hl, hr, rfl⟩, rfl⟩

/-- A question after a condition compiles like the question with the condition. -/
theorem compileIn_asked_cases (f : Finder) (x : String) (a : Expr) :
    (∃ body, Condition S root scope item x a body ∧
      compileIn S root scope element ((s.filtered x a).asked f) =
        .ok (.find (.filter source (scope.bind x item) body) f) ∧
      compileIn S root scope element (s.askedWhere f x a) =
        .ok (.findWhere source f (scope.bind x item) body)) ∨
    ∃ bad bad', compileIn S root scope element ((s.filtered x a).asked f) = .error bad ∧
      compileIn S root scope element (s.askedWhere f x a) = .error bad' ∧
      bad.unattributed = bad'.unattributed := by
  have filtered := compileIn_filtered hs ts x a
  have askedWhere := compileIn_askedWhere hs ts f x a
  cases hb : bodyIn S root scope item x a with
  | error bad =>
    rw [hb] at filtered askedWhere
    exact .inr ⟨bad, bad, compileIn_call_error rfl filtered, askedWhere, rfl⟩
  | ok body =>
    rw [hb] at filtered askedWhere
    by_cases bool : body.type S = .bool
    · have kept := filtered.trans (if_pos bool)
      exact .inl ⟨body, ⟨hb, bool⟩, compileIn_asked kept ts f, askedWhere.trans (if_pos bool)⟩
    · have bad := filtered.trans (if_neg bool)
      exact .inr ⟨_, _, compileIn_call_error rfl bad, askedWhere.trans (if_neg bool), rfl⟩

theorem compileAlike_asked (f : Finder) (x : String) (a : Expr) :
    CompileAlike S root scope element ((s.filtered x a).asked f) (s.askedWhere f x a) := by
  unfold CompileAlike Compiles
  rcases compileIn_asked_cases hs ts f x a with ⟨body, -, h, h'⟩ | ⟨bad, bad', h, h', same⟩
  · rw [h, h']
    exact ⟨⟨fun _ => ⟨_, rfl⟩, fun _ => ⟨_, rfl⟩⟩, fun _ _ e => nomatch e⟩
  · rw [h, h']
    refine ⟨⟨nofun, nofun⟩, fun _ _ e e' => ?_⟩
    cases e
    cases e'
    exact same

theorem compileIn_count : ∃ m : Member κ ρ,
    compileIn S root scope element (.member s "Count") = .ok (.member source m) ∧
      ∀ element items origin, m.get (.sequence element items origin) = .ofCount items.length := by
  obtain ⟨m, hm, counts⟩ := findMember?_count S item
  exact ⟨m, compileIn_member_eq (isLambda_sequence hs ts) hs (ts ▸ hm), counts⟩

end Compiled

/-! ## Runs -/

/-- The sides of a conjunction are tried as two tests. -/
theorem verdict_and (hm : Matches scope stack env) (hl : Condition S root scope item x a l)
    (hr : Condition S root scope item x c r) :
    (fun a => verdict (called S stack (scope.bind x item) (.logical l .and r) a)) =
      both (fun a => verdict (called S stack (scope.bind x item) l a))
        fun a => verdict (called S stack (scope.bind x item) r a) := by
  have conjunction := WellFormed.logical .and hl.wellFormed hr.wellFormed hl.2 hr.2
  rw [conjunction.called_eq hm, hl.wellFormed.called_eq hm, hr.wellFormed.called_eq hm]
  funext item
  simp only [both, verdict, meaning]
  cases meaning S ((x, item) :: env) l with
  | error e => rfl
  | ok v =>
    simp only [bind, Except.bind, pure, Except.pure]
    cases truth v with
    | false => rfl
    | true => cases meaning S ((x, item) :: env) r <;> rfl

section Runs

variable (hm : Matches scope stack env) (ws : WellFormed S root scope source)
  (ts : source.type S = .sequence item)
include hm ws ts

theorem outcome_find (f : Finder) : outcome S stack (.find source f) = (do
    answerOf f (← itemsOf S f.name (← outcome S stack source))) := by
  rw [(WellFormed.find f ws ts).outcome_eq hm, meaning, ws.outcome_eq hm]

variable (hl : Condition S root scope item x a l)
include hl

theorem outcome_filter : outcome S stack (.filter source (scope.bind x item) l) = (do
    let items ← itemsOf S SequenceOperator.filter.name (← outcome S stack source)
    let kept ← items.filterM fun a => verdict (called S stack (scope.bind x item) l a)
    return .ofItems (source.type S).element kept) := by
  rw [(WellFormed.filter ws ts hl.wellFormed hl.2).outcome_eq hm, meaning,
    hl.wellFormed.called_eq hm, ws.outcome_eq hm]
  rfl

theorem outcome_findWhere (f : Finder) :
    outcome S stack (.findWhere source f (scope.bind x item) l) = (do
      let items ← itemsOf S f.name (← outcome S stack source)
      answerFor f (fun a => verdict (called S stack (scope.bind x item) l a)) items) := by
  rw [(WellFormed.findWhere f ws ts hl.wellFormed hl.2).outcome_eq hm, meaning,
    hl.wellFormed.called_eq hm, ws.outcome_eq hm]
  rfl

/-- What a condition keeps of some items is what the next operator has for items. -/
theorem supplies_filter {kept : List (Value κ ρ)} :
    Supplies S stack (.filter source (scope.bind x item) l) kept ↔
      ∃ items, Supplies S stack source items ∧
        items.filterM (fun a => verdict (called S stack (scope.bind x item) l a)) = .ok kept := by
  simp only [Supplies, outcome_filter hm ws ts hl]
  constructor
  · rintro ⟨element, origin, h⟩
    obtain ⟨items, hs, h⟩ := on_items_eq_ok.mp h
    obtain ⟨_, hk, h⟩ := bind_eq_ok.mp h
    cases h
    exact ⟨items, hs, hk⟩
  · rintro ⟨items, hs, hk⟩
    exact ⟨_, _, on_items_eq_ok.mpr ⟨items, hs, bind_eq_ok.mpr ⟨kept, hk, rfl⟩⟩⟩

/-- Items that are kept by one condition after the other are those that are kept by both. -/
theorem outcome_filter_filter (hr : Condition S root scope item x c r) :
    outcome S stack (.filter (.filter source (scope.bind x item) l) (scope.bind x item) r) =
        .ok v ↔
      outcome S stack (.filter source (scope.bind x item) (.logical l .and r)) = .ok v := by
  have first := WellFormed.filter ws ts hl.wellFormed hl.2
  have conjunction : Condition S root scope item x (.binary a (.connect .and) c)
      (.logical l .and r) := condition_and.mpr ⟨l, r, hl, hr, rfl⟩
  rw [outcome_filter hm first ts hr, outcome_filter hm ws ts conjunction, on_items_eq_ok,
    on_items_eq_ok, verdict_and hm hl hr]
  simp only [supplies_filter hm ws ts hl, bind_eq_ok, filterM_both]
  constructor
  · rintro ⟨kept, ⟨items, hs, hk⟩, both, hb, h⟩
    exact ⟨items, hs, both, ⟨kept, hk, hb⟩, h⟩
  · rintro ⟨items, hs, both, ⟨kept, hk, hb⟩, h⟩
    exact ⟨kept, ⟨items, hs, hk⟩, both, hb, h⟩

/-- A finder that ends early gives what it gives about all items that are kept, if keeping
them does not fail. -/
theorem outcome_findWhere_of_filter
    (h : outcome S stack (.find (.filter source (scope.bind x item) l) f) = .ok v) :
    outcome S stack (.findWhere source f (scope.bind x item) l) = .ok v := by
  have kept := WellFormed.filter ws ts hl.wellFormed hl.2
  rw [outcome_find hm kept ts] at h
  obtain ⟨kept, hkept, h⟩ := on_items_eq_ok.mp h
  obtain ⟨items, hs, hk⟩ := (supplies_filter hm ws ts hl).mp hkept
  rw [outcome_findWhere hm ws ts hl]
  exact on_items_eq_ok.mpr ⟨items, hs, answerFor_of_filterM hk h⟩

/-- Counting tries every item as keeping does, and fails where it fails. -/
theorem outcome_count_filter :
    (outcome S stack (.findWhere source .count (scope.bind x item) l)).mapError
        RuntimeError.unattributed =
      (outcome S stack (.find (.filter source (scope.bind x item) l) .count)).mapError
        RuntimeError.unattributed := by
  have kept := WellFormed.filter ws ts hl.wellFormed hl.2
  rw [outcome_find hm kept ts, outcome_filter hm ws ts hl, outcome_findWhere hm ws ts hl]
  cases outcome S stack source with
  | error e => rfl
  | ok w =>
    cases w with
    | sequence _ items _ =>
      simp only [bind, Except.bind, itemsOf, answerFor]
      cases items.filterM fun a => verdict (called S stack (scope.bind x item) l a) <;> rfl
    | _ => rfl

end Runs

/-- The length of a sequence, as its member and by asking for it. -/
theorem outcome_count_member (hm : Matches scope stack env) (honest : S.Honest)
    (hr : root.Fits S) (he : Fitting S scope env) (ts : source.type S = .sequence item)
    {m : Member κ ρ} (wf : WellFormed S root scope (.member source m))
    (counts : ∀ element items origin,
      m.get (.sequence element items origin) = .ofCount items.length) :
    outcome S stack (.member source m) = .ok v ↔
      outcome S stack (.find source .count) = .ok v := by
  have ws : WellFormed S root scope source := wf.operand (List.mem_singleton_self source)
  rw [outcome_find hm ws ts, wf.outcome_eq hm, ws.outcome_eq hm, meaning]
  cases hv : meaning S env source with
  | error e => rfl
  | ok w =>
    have fits : S.Fits (.sequence item) w := ts ▸ ws.fits_meaning honest hr he hv
    cases w with
    | null => constructor <;> intro h <;> cases h
    | sequence element items origin =>
      show Except.ok (m.get _) = .ok v ↔ _
      rw [counts]
      rfl
    | _ => cases fits.typeOf rfl

/-! ## Results -/

theorem resultIn_eq_ok {e : Expr} :
    resultIn S root scope element stack e = .ok v ↔
      ∃ p, compileIn S root scope element e = .ok p ∧ outcome S stack p = .ok v := by
  simp only [resultIn, bind_eq_ok, mapError_eq_ok]

theorem resultIn_of_compiled {e : Expr} (h : compileIn S root scope element e = .ok p) :
    resultIn S root scope element stack e = (outcome S stack p).mapError .runtime := by
  rw [resultIn, h]
  rfl

theorem resultIn_of_error {e : Expr} {bad : QueryError}
    (h : compileIn S root scope element e = .error bad) :
    resultIn S root scope element stack e = .error bad := by
  rw [resultIn, h]
  rfl

section Results

variable (hs : compileIn S root scope element s = .ok source)
  (ts : source.type S = .sequence item) (hm : Matches scope stack env)
include hs ts hm

theorem resultIn_filtered_twice (x : String) (a c : Expr) :
    resultIn S root scope element stack ((s.filtered x a).filtered x c) = .ok v ↔
      resultIn S root scope element stack (s.filtered x (.binary a (.connect .and) c)) =
        .ok v := by
  have ws := (wellFormed_compileIn hs).1
  simp only [resultIn_eq_ok, compileIn_filtered_twice hs ts, compileIn_filtered_and hs ts]
  constructor
  · rintro ⟨_, ⟨l, r, hl, hr, rfl⟩, h⟩
    exact ⟨_, ⟨l, r, hl, hr, rfl⟩, (outcome_filter_filter hm ws ts hl hr).mp h⟩
  · rintro ⟨_, ⟨l, r, hl, hr, rfl⟩, h⟩
    exact ⟨_, ⟨l, r, hl, hr, rfl⟩, (outcome_filter_filter hm ws ts hl hr).mpr h⟩

theorem resultIn_askedWhere_count (x : String) (a : Expr) :
    (resultIn S root scope element stack (s.askedWhere .count x a)).mapError
        QueryError.unattributed =
      (resultIn S root scope element stack ((s.filtered x a).asked .count)).mapError
        QueryError.unattributed := by
  rcases compileIn_asked_cases hs ts .count x a with
    ⟨body, hb, h, h'⟩ | ⟨bad, bad', h, h', same⟩
  · rw [resultIn_of_compiled h, resultIn_of_compiled h', mapError_unattributed,
      mapError_unattributed, outcome_count_filter hm (wellFormed_compileIn hs).1 ts hb]
  · rw [resultIn_of_error h, resultIn_of_error h']
    exact congrArg Except.error same.symm

theorem resultIn_count (honest : S.Honest) (hr : root.Fits S) (he : Fitting S scope env) :
    resultIn S root scope element stack (.member s "Count") = .ok v ↔
      resultIn S root scope element stack (s.asked .count) = .ok v := by
  obtain ⟨m, h, counts⟩ := compileIn_count hs ts
  rw [resultIn_of_compiled h, resultIn_of_compiled (compileIn_asked hs ts .count),
    mapError_eq_ok, mapError_eq_ok]
  exact outcome_count_member hm honest hr he ts (wellFormed_compileIn h).1 counts

theorem resultIn_askedWhere (x : String) (a : Expr)
    (h : resultIn S root scope element stack ((s.filtered x a).asked f) = .ok v) :
    resultIn S root scope element stack (s.askedWhere f x a) = .ok v := by
  rcases compileIn_asked_cases hs ts f x a with ⟨body, hb, h', fused⟩ | ⟨bad, bad', h', -, -⟩
  · rw [resultIn_of_compiled h', mapError_eq_ok] at h
    rw [resultIn_of_compiled fused, mapError_eq_ok]
    exact outcome_findWhere_of_filter hm (wellFormed_compileIn hs).1 ts hb h
  · rw [resultIn_of_error h'] at h
    cases h

end Results

/-! ## The law -/

/-- A part of a query that is a sequence, in any scope, and two conditions under one
parameter. Keeping by one condition and then by the other compiles where keeping by both
does, and gives the same items or fails along with it. A question after a condition compiles
like the question with the condition; counting gives the same number or the same failure, but
for the name of the operator, and where another finder succeeds after the condition it gives
the same with it. Over honest schemas the length of the sequence is the same as a member. -/
theorem fused_queries_agree (S : Schema κ ρ) (root : Root κ ρ) (scope : Scope κ)
    (element : Option (ValueType κ)) (s : Expr) (source : Plan κ ρ) (item : ValueType κ)
    (hs : compileIn S root scope element s = .ok source) (ts : source.type S = .sequence item)
    (x : String) (a b : Expr) :
    (Compiles S root scope element ((s.filtered x a).filtered x b) ↔
      Compiles S root scope element (s.filtered x (.binary a (.connect .and) b))) ∧
    (∀ f, CompileAlike S root scope element ((s.filtered x a).asked f) (s.askedWhere f x a)) ∧
    (Compiles S root scope element (.member s "Count") ∧
      Compiles S root scope element (s.asked .count)) ∧
    ∀ stack env, Matches scope stack env →
      (∀ v, resultIn S root scope element stack ((s.filtered x a).filtered x b) = .ok v ↔
        resultIn S root scope element stack (s.filtered x (.binary a (.connect .and) b)) =
          .ok v) ∧
      (resultIn S root scope element stack (s.askedWhere .count x a)).mapError
          QueryError.unattributed =
        (resultIn S root scope element stack ((s.filtered x a).asked .count)).mapError
          QueryError.unattributed ∧
      (S.Honest → root.Fits S → Fitting S scope env → ∀ v,
        resultIn S root scope element stack (.member s "Count") = .ok v ↔
          resultIn S root scope element stack (s.asked .count) = .ok v) ∧
      ∀ f v, resultIn S root scope element stack ((s.filtered x a).asked f) = .ok v →
        resultIn S root scope element stack (s.askedWhere f x a) = .ok v := by
  obtain ⟨m, count, -⟩ := compileIn_count hs ts
  refine ⟨?_, fun f => compileAlike_asked hs ts f x a,
    ⟨⟨_, count⟩, _, compileIn_asked hs ts .count⟩, fun stack env hm =>
    ⟨fun v => resultIn_filtered_twice hs ts hm x a b, resultIn_askedWhere_count hs ts hm x a,
      fun honest hr he v => resultIn_count hs ts hm honest hr he,
      fun f v h => resultIn_askedWhere hs ts hm x a h⟩⟩
  simp only [Compiles, compileIn_filtered_twice hs ts, compileIn_filtered_and hs ts]
  constructor
  · rintro ⟨_, l, r, hl, hr, rfl⟩
    exact ⟨_, l, r, hl, hr, rfl⟩
  · rintro ⟨_, l, r, hl, hr, rfl⟩
    exact ⟨_, l, r, hl, hr, rfl⟩

/-- The commits with an author whose first file is binary. A commit without an author may have
no file: the second condition fails on it, but is not tried. -/
theorem signed_commits_are_asked_alike :
    let S := Extension.nothing.schema
    let root := Root.ofCommits [.blank]
    let commits := Expr.name "Commits"
    let named := Expr.binary (.member (.name "c") "AuthorName") (.compare .notEqual) (.text "")
    let binary := Expr.member
      (.asked (.member (.member (.name "c") "Diff") "Files") .first) "IsBinary"
    (∃ source item, compileIn S root [] none commits = .ok source ∧
      source.type S = .sequence item) ∧
    S.Honest ∧ root.Fits S ∧ Matches (κ := Kind Empty) (ρ := Record Empty) [] [] [] ∧
    Compiles S root [] none ((commits.filtered "c" named).filtered "c" binary) ∧
    (∀ v, resultIn S root [] none [] ((commits.filtered "c" named).filtered "c" binary) = .ok v ↔
      resultIn S root [] none []
        (commits.filtered "c" (.binary named (.connect .and) binary)) = .ok v) ∧
    ∀ v, resultIn S root [] none [] (.member commits "Count") = .ok v ↔
      resultIn S root [] none [] (commits.asked .count) = .ok v := by
  intro S root commits named binary
  have hs : compileIn S root [] none commits = .ok (.constant root.value) := by cbv
  have ts : (Plan.constant root.value).type S = .sequence root.element := rfl
  have hr : root.Fits S := fits_ofCommits _
  obtain ⟨compiles, -, -, runs⟩ :=
    fused_queries_agree S root [] none commits _ _ hs ts "c" named binary
  obtain ⟨twice, -, count, -⟩ := runs [] [] .nil
  refine ⟨⟨_, _, hs, ts⟩, honest_schema_nothing, hr, .nil, ?_, twice,
    count honest_schema_nothing hr .nil⟩
  exact compiles.mpr ⟨_, rfl⟩

end Plan

end CommitQuery
