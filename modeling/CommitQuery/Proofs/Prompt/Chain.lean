-- Completion and the compiler agree on chains of members and calls. The compiler types
-- the tree of a query, completion walks back over the text; link by link they come to the
-- same type, or completion gives up.
import CommitQuery.Proofs.Commit.Honest
import CommitQuery.Proofs.Plan.Compiled
import CommitQuery.Proofs.Prompt.Candidates

namespace CommitQuery

open CommitQuery.Query

variable {κ ρ : Type}

/-! ## What completion makes of a link -/

/-- Methods of one type that one name calls give values of one type. Names are the same
up to the case of ASCII letters, as wherever a query looks one up. -/
def Schema.SharesReturns (S : Schema κ ρ) : Prop :=
  ∀ type, ∀ m ∈ S.methodsOf type, ∀ m' ∈ S.methodsOf type,
    Text.equalsIgnoringAsciiCase m.name m'.name = true → m.returns = m'.returns

/-- Whether completion knows what an operator gives. -/
def SequenceOperator.isFollowed : SequenceOperator → Bool
  | .select | .find .any | .find .count => false
  | _ => true

namespace Completion

open CommitQuery.Text CommitQuery.Query.Expr

variable (c : Completion κ ρ)

theorem callType?_operator {item : ValueType κ} {method : String} {op : SequenceOperator}
    (h : SequenceOperator.ofName? method = some op) :
    c.callType? (.sequence item) method =
      if op.isFollowed then Plan.typeFrom? item op else none := by
  unfold callType?
  rw [h]
  cases op with
  | find f => cases f <;> rfl
  | _ => rfl

theorem callType?_method (shared : c.schema.SharesReturns) {receiver : ValueType κ}
    {method : String} {m : Method κ ρ} (other : ∀ item, receiver ≠ .sequence item)
    (hm : m ∈ c.schema.methodsOf receiver) (named : equalsIgnoringAsciiCase m.name method = true) :
    c.callType? receiver method = some m.returns := by
  have first := List.find?_isSome (p := fun m => equalsIgnoringAsciiCase m.name method)
    |>.mpr ⟨m, hm, named⟩
  obtain ⟨m', found⟩ := Option.isSome_iff_exists.mp first
  have named' := List.find?_some found
  have same : equalsIgnoringAsciiCase m'.name m.name = true := by
    simp only [equalsIgnoringAsciiCase, beq_iff_eq] at named named' ⊢
    exact named'.trans named.symm
  have returns := shared receiver m' (List.mem_of_find?_eq_some found) m hm same
  unfold callType?
  cases receiver with
  | sequence item => exact absurd rfl (other item)
  | _ => simp only [Option.none_or, found, Option.map_some, returns]

variable [DecidableEq κ] {root : Root κ ρ} {scope : Scope κ} {element : Option (ValueType κ)}

/-- For a call that compiles completion finds its type, or nothing for an operator that it
does not follow. -/
theorem callType?_of_compileIn (shared : c.schema.SharesReturns) {target : Expr}
    {method : String} {arguments : List Expr} {p : Plan κ ρ}
    (h : Plan.compileIn c.schema root scope element (.call target method arguments) = .ok p) :
    ∃ source, Plan.compileIn c.schema root scope element target = .ok source ∧
      (∀ t ∈ c.callType? (source.type c.schema) method, t = p.type c.schema) ∧
      ((∀ op ∈ SequenceOperator.ofName? method, op.isFollowed = true) →
        c.callType? (source.type c.schema) method = some (p.type c.schema)) := by
  obtain ⟨source, hs, ⟨item, op, ts, hop, h⟩ | ⟨other, ps, -, h⟩⟩ := Plan.compileIn_call h
  · have typed := Plan.type_compileOperator ts h
    refine ⟨source, hs, ?_⟩
    rw [ts, c.callType?_operator hop]
    constructor
    · intro t ht
      split at ht
      · exact (typed t ht).symm
      · cases ht
    · intro followed
      rw [if_pos (followed op hop)]
      cases op with
      | select => cases followed _ hop
      | _ => rw [typed _ rfl]; rfl
  · obtain ⟨m, hm, named, type⟩ := Plan.type_ofCall h
    have found := c.callType?_method shared other hm named
    refine ⟨source, hs, ?_, fun _ => ?_⟩
    · intro t ht
      rw [found] at ht
      cases ht
      exact type.symm
    · rw [found, type]

end Completion

/-! ## Chains -/

namespace Query.Expr

/-- What a member or a call is one of. -/
def target? : Expr → Option Expr
  | .member target _ | .call target _ _ => some target
  | _ => none

/-- The name that a chain of members and calls starts with, if it is one. -/
def startName? : Expr → Option String
  | .name x => some x
  | .member target _ | .call target _ _ => target.startName?
  | _ => none

/-- How many members and calls a chain has. -/
def links : Expr → Nat
  | .member target _ | .call target _ _ => target.links + 1
  | _ => 0

/-- The names of the methods that a chain calls. -/
def calls : Expr → List String
  | .member target _ => target.calls
  | .call target method _ => method :: target.calls
  | _ => []

/-- No call of a chain is one of an operator that completion does not follow. -/
def IsFollowed (e : Expr) : Prop :=
  ∀ method ∈ e.calls, ∀ op ∈ SequenceOperator.ofName? method, op.isFollowed = true

instance (e : Expr) : Decidable e.IsFollowed :=
  inferInstanceAs (Decidable (∀ method ∈ e.calls, ∀ op ∈ SequenceOperator.ofName? method, _))

/-- Whether a tree is a name, a string, or a chain that starts with one of them. Numbers
have neither members nor methods. -/
def isReceiver : Expr → Bool
  | .number _ | .lambda _ _ | .binary _ _ _ => false
  | _ => true

theorem Written.isName_start {e : Expr} (h : e.Written) {x : String} (hx : e.startName? = some x) :
    IsName x := by
  induction h with
  | name hs =>
    cases hx
    exact hs
  | member _ _ _ ih => exact ih hx
  | call _ _ _ _ ih => exact ih hx
  | _ => cases hx

theorem of_target? {e target : Expr} (h : e.target? = some target) :
    e.startName? = target.startName? ∧ e.links = target.links + 1 ∧
      (e.IsFollowed → target.IsFollowed) := by
  cases e with
  | member target field =>
    cases h
    exact ⟨rfl, rfl, id⟩
  | call target method arguments =>
    cases h
    exact ⟨rfl, rfl, fun followed m hm => followed m (List.mem_cons_of_mem method hm)⟩
  | _ => cases h

theorem eq_name_of_start {e : Expr} {x : String} (h : e.startName? = some x) (alone : e.links = 0) :
    e = .name x := by
  cases e with
  | name y => rw [Option.some.inj h]
  | member target field => cases alone
  | call target method arguments => cases alone
  | _ => cases h

end Query.Expr

namespace Completion

open CommitQuery.Text CommitQuery.Query.Expr

variable (c : Completion κ ρ) [DecidableEq κ] {root : Root κ ρ} {scope : Scope κ}
  {element : Option (ValueType κ)}

/-- No member and no call of a number compiles. -/
theorem isReceiver_of_compileIn {S : Schema κ ρ} {e target : Expr} {p : Plan κ ρ}
    (operand : target.isOperand = true) (ht : e.target? = some target)
    (h : Plan.compileIn S root scope element e = .ok p) : target.isReceiver = true := by
  cases target with
  | number n =>
    cases e with
    | member target field =>
      cases ht
      obtain ⟨source, m, hs, hm, -⟩ := Plan.compileIn_member h
      cases hs
      cases hm
    | call target method arguments =>
      cases ht
      obtain ⟨source, hs, ⟨item, op, ts, -, -⟩ | ⟨-, ps, -, called⟩⟩ := Plan.compileIn_call h
      · cases hs
        cases ts
      · cases hs
        obtain ⟨m, hm, -⟩ := Plan.type_ofCall called
        cases hm
    | _ => cases ht
  | lambda x body => cases operand
  | binary left op right => cases operand
  | _ => rfl

/-- Completion takes one link of a chain for each link that the compiler takes, and comes
to the same type or to none. -/
theorem receiverType?_link (shared : c.schema.SharesReturns) {e target : Expr} {p : Plan κ ρ}
    (written : e.Written) (ht : e.target? = some target)
    (h : Plan.compileIn c.schema root scope element e = .ok p) :
    ∃ source follow, Plan.compileIn c.schema root scope element target = .ok source ∧
      target.Written ∧ target.isReceiver = true ∧
      (∀ line links before, c.receiverType? line (links + 1) (before ++ e.spelling) =
        (c.receiverType? line links (before ++ target.spelling)).bind follow) ∧
      (∀ t ∈ follow (source.type c.schema), t = p.type c.schema) ∧
      (e.IsFollowed → follow (source.type c.schema) = some (p.type c.schema)) := by
  cases written with
  | @member target field operand written hf =>
    cases ht
    obtain ⟨source, m, hs, hm, type⟩ := Plan.compileIn_member h
    have receives := isReceiver_of_compileIn operand rfl h
    have found : (c.schema.findMember? (source.type c.schema) field).map (·.type) =
        some (p.type c.schema) := by
      rw [hm, type]
      rfl
    refine ⟨source, fun receiver => (c.schema.findMember? receiver field).map (·.type), hs, written,
      receives, ?_, fun t ht => Option.some.inj (ht.symm.trans found), fun _ => found⟩
    intro line links before
    rw [spelling, ← List.append_assoc, c.receiverType?_member hf]
  | @call target method arguments operand written hm ha =>
    cases ht
    obtain ⟨source, hs, agrees, follows⟩ := c.callType?_of_compileIn shared h
    have receives := isReceiver_of_compileIn operand rfl h
    refine ⟨source, fun receiver => c.callType? receiver method, hs, written, receives, ?_, agrees,
      fun followed => follows (followed method List.mem_cons_self)⟩
    intro line links before
    rw [← c.receiverType?_call hm (neutral_spellings arguments ha)]
    simp [spelling]
  | _ => cases ht

section Chain

variable (line before : List Char)

/-- What completion finds for a chain is the type that the compiler gives it, if that is so
for the name that it starts with. Each link takes one from the links that are left. -/
theorem receiverType?_chain (shared : c.schema.SharesReturns)
    {e : Expr} {p : Plan κ ρ} (written : e.Written) (receives : e.isReceiver = true)
    (h : Plan.compileIn c.schema root scope element e = .ok p) (links : Nat)
    (start : ∀ x q, e.startName? = some x → Plan.ofName root scope x = .ok q → ∀ n ≤ links,
      ∀ t ∈ c.receiverType? line n (before ++ x.toList), t = q.type c.schema) :
    ∀ t ∈ c.receiverType? line links (before ++ e.spelling), t = p.type c.schema := by
  induction links generalizing e p with
  | zero =>
    intro t ht
    cases ht
  | succ links ih =>
    cases target : e.target? with
    | some target =>
      obtain ⟨source, follow, hs, written, receives, step, agrees, -⟩ :=
        c.receiverType?_link shared written target h
      have found := ih written receives hs fun x q hx hq n hn =>
        start x q ((of_target? target).1.trans hx) hq n (Nat.le_succ_of_le hn)
      intro t ht
      rw [step, Option.mem_def, Option.bind_eq_some_iff] at ht
      obtain ⟨receiver, hr, ht⟩ := ht
      rw [found receiver hr] at ht
      exact agrees t ht
    | none =>
      cases e with
      | name x => exact start x p rfl h _ (Nat.le_refl _)
      | text s =>
        have none : c.receiverType? line (links + 1)
            (before ++ quoteFor s :: s.toList ++ [quoteFor s]) = none := c.receiverType?_text s
        intro t ht
        rw [spelling, ← List.append_assoc, none] at ht
        cases ht
      | member target field => cases target
      | call target method arguments => cases target
      | _ => cases receives

/-- Completion finds the type of a chain of calls that it follows, if it finds that of the
name at its start with the links that are left. -/
theorem receiverType?_followed (shared : c.schema.SharesReturns) {links : Nat} {x : String}
    {q : Plan κ ρ} (hq : Plan.ofName root scope x = .ok q)
    (found : c.receiverType? line links (before ++ x.toList) = some (q.type c.schema))
    {e : Expr} {p : Plan κ ρ} (written : e.Written) (followed : e.IsFollowed)
    (start : e.startName? = some x) (h : Plan.compileIn c.schema root scope element e = .ok p) :
    c.receiverType? line (links + e.links) (before ++ e.spelling) =
      some (p.type c.schema) := by
  induction count : e.links generalizing e p with
  | zero =>
    obtain rfl := eq_name_of_start start count
    cases hq.symm.trans h
    exact found
  | succ n ih =>
    cases target : e.target? with
    | some target =>
      obtain ⟨source, follow, hs, written, -, step, -, follows⟩ :=
        c.receiverType?_link shared written target h
      obtain ⟨same, one, keeps⟩ := of_target? target
      have receiver := ih written (keeps followed) (same.symm.trans start) hs (by omega)
      rw [← Nat.add_assoc, step, receiver, Option.bind_some, follows followed]
    | none =>
      cases e with
      | member target field => cases target
      | call target method arguments => cases target
      | _ => cases count

end Chain

/-! ## The law -/

/-- After a query that is a name, a string or a chain, and that compiles against the root
of the prompt, either nothing is offered or what fits the type that the compiler gives it.
A chain from the root with no more than 32 links, none a call of an operator that is not
followed, is always recognized. -/
theorem a_chain_is_completed_by_its_type (shared : c.schema.SharesReturns)
    (name : root.name = c.rootName) (type : root.type = c.rootType) (query : String) (e : Expr)
    (p : Plan κ ρ) (hq : Expr.parse query = .ok e) (receives : e.isReceiver = true)
    (h : Plan.compile c.schema root e = .ok p) :
    ∃ cs, c.suggest (e.toText ++ ".") (utf8Length (e.toText ++ ".").toList) =
        (utf8Length (e.toText ++ ".").toList, cs) ∧
      (cs = [] ∨ c.Offers (p.type c.schema) cs) ∧
      (e.startName? = some c.rootName → e.links ≤ 32 → e.IsFollowed →
        c.Offers (p.type c.schema) cs) := by
  have written := written_of_parse hq
  obtain ⟨_, -, h⟩ := bind_eq_ok.mp h
  have line : e.toText ++ "." = String.ofList (e.spelling ++ ['.']) := by
    rw [toText, String.ofList_append]
  have root_found : ∀ x q, e.startName? = some x → Plan.ofName root [] x = .ok q →
      ∀ n, c.receiverType? (e.spelling ++ ['.']) (n + 1) ([] ++ x.toList) =
        some (q.type c.schema) := by
    intro x q hx hq n
    obtain ⟨same, typed⟩ := Plan.ofName_root (S := c.schema) hq
    rw [c.receiverType?_name (written.isName_start hx) opens_nil, if_pos (same.trans name), typed,
      type]
  have root_agrees : ∀ x q, e.startName? = some x → Plan.ofName root [] x = .ok q →
      ∀ n ≤ maxLinks, ∀ t ∈ c.receiverType? (e.spelling ++ ['.']) n ([] ++ x.toList),
        t = q.type c.schema := by
    intro x q hx hq n _ t ht
    cases n with
    | zero => cases ht
    | succ n => exact Option.some.inj (ht.symm.trans (root_found x q hx hq n))
  have agrees := c.receiverType?_chain _ [] shared written receives h maxLinks root_agrees
  obtain ⟨cs, suggested, offered, known⟩ := c.suggest_of_receiverType? agrees
  rw [line, String.toList_ofList]
  refine ⟨cs, suggested, offered, fun start short followed => known ?_⟩
  obtain ⟨q, hq⟩ : ∃ q, Plan.ofName root [] c.rootName = .ok q := ⟨_, if_pos name.symm⟩
  have enough : maxLinks = 32 - e.links + 1 + e.links := by
    unfold maxLinks
    omega
  have exactly := c.receiverType?_followed (e.spelling ++ ['.']) [] shared hq
    (root_found _ _ start hq (32 - e.links)) written followed start h
  rw [← enough] at exactly
  exact exactly

end Completion

/-! ## The prompt of a repository -/

/-- The methods of texts that give texts are told from the others by their names. -/
theorem returns_of_textMethods {S : Schema κ ρ} :
    ∀ m ∈ S.textMethods, m.returns =
      if Text.asciiLowercase m.name ∈ ["tolower", "toupper", "trim"] then .text else .bool := by
  simp only [Schema.textMethods, Schema.textTest, Schema.textMap, List.forall_mem_cons]
  have test : ∀ name ∈ ["Contains", "StartsWith", "EndsWith", "Equals"],
      Text.asciiLowercase name ∉ ["tolower", "toupper", "trim"] := by decide
  have map : ∀ name ∈ ["ToLower", "ToUpper", "Trim"],
      Text.asciiLowercase name ∈ ["tolower", "toupper", "trim"] := by decide
  simp [test, map]

theorem sharesReturns_schema_nothing : Extension.nothing.schema.SharesReturns := by
  intro type m hm m' hm' same
  have lower : Text.asciiLowercase m.name = Text.asciiLowercase m'.name :=
    congrArg String.ofList (beq_iff_eq.mp same)
  cases type with
  | text => rw [returns_of_textMethods m hm, returns_of_textMethods m' hm', lower]
  | record kind =>
    have tests : ∀ n ∈ Extension.nothing.schema.methodsOf (.record kind), n.returns = .bool := by
      cases kind with
      | commit => nofun
      | diff => simp [Schema.methodsOf, Extension.schema, Extension.kindMethods, recordTest]
      | file => simp [Schema.methodsOf, Extension.schema, Extension.kindMethods, recordTest]
      | other kind => exact kind.elim
    rw [tests m hm, tests m' hm']
  | _ => cases hm

namespace Completion

open CommitQuery.Text

/-- The prompt over the commits of a repository. -/
def overCommits : Completion (Kind Empty) (Record Empty) :=
  ⟨Extension.nothing.schema, "Commits", .sequence (.record .commit)⟩

def throughStrings : String :=
  "Commits.Where(c => c.Message.Contains('\"=> (') || c.Sha == \")'\").First().Diff"

/-- Parentheses, quotes and an arrow in the strings of an argument are passed over. -/
theorem a_chain_past_strings_with_parentheses_is_completed :
    overCommits.schema.SharesReturns ∧
      (Root.ofCommits [.blank] : Root (Kind Empty) (Record Empty)).name = overCommits.rootName ∧
      (Root.ofCommits [.blank] : Root (Kind Empty) (Record Empty)).type = overCommits.rootType ∧
      ∃ e p, Expr.parse throughStrings = .ok e ∧
        e.isReceiver = true ∧
        Plan.compile overCommits.schema (.ofCommits [.blank]) e = .ok p ∧
        p.type overCommits.schema = .record .diff ∧
        e.startName? = some overCommits.rootName ∧ e.links ≤ 32 ∧ e.IsFollowed ∧
        ∃ cs, overCommits.suggest (e.toText ++ ".") (utf8Length (e.toText ++ ".").toList) =
            (utf8Length (e.toText ++ ".").toList, cs) ∧
          overCommits.Offers (.record .diff) cs := by
  have h : ∃ e p, Expr.parse throughStrings = .ok e ∧ e.isReceiver = true ∧
        Plan.compile overCommits.schema (.ofCommits [.blank]) e = .ok p ∧
        p.type overCommits.schema = .record .diff ∧
        e.startName? = some overCommits.rootName ∧ e.links ≤ 32 ∧ e.IsFollowed :=
    ⟨_, _, by cbv, by cbv, by cbv, by cbv, by cbv, by decide, by decide⟩
  obtain ⟨e, p, hq, receives, h, type, start, short, followed⟩ := h
  obtain ⟨cs, suggested, -, offers⟩ := overCommits.a_chain_is_completed_by_its_type
    sharesReturns_schema_nothing rfl rfl _ e p hq receives h
  refine ⟨sharesReturns_schema_nothing, rfl, rfl, e, p, hq, receives, h, type, start, short,
    followed, cs, suggested, ?_⟩
  rw [← type]
  exact offers start short followed

end Completion

end CommitQuery
