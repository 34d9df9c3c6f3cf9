-- Completion of lambda parameters. Completion takes the last arrow of a line that the name
-- of a parameter stands in front of; the parameter's own arrow is the one whose lambda is
-- around it. Where both are the same arrow, the type that is completed is the parameter's.
import CommitQuery.Proofs.Prompt.Places

namespace CommitQuery

open CommitQuery.Text CommitQuery.Query CommitQuery.Query.Expr

variable {κ ρ : Type}

namespace Completion

/-! ## Arrows -/

theorem beforeArrows_cons_of_ne {c : Char} {seen s : List Char}
    (h : ∀ rest, c = '=' → s ≠ '>' :: rest) :
    beforeArrows seen (c :: s) = beforeArrows (c :: seen) s := by
  rw [beforeArrows]
  rintro rest rfl
  exact h rest rfl

/-- The arrows of a text are those before one of them, that one and those behind it. -/
theorem beforeArrows_append (seen s rest : List Char) :
    beforeArrows seen (s ++ '=' :: '>' :: rest) =
      beforeArrows seen s ++ (seen.reverse ++ s) ::
        beforeArrows ('>' :: '=' :: (s.reverse ++ seen)) rest := by
  fun_induction beforeArrows seen s with
  | case1 seen => simp [beforeArrows]
  | case2 seen after ih => simp [beforeArrows, ih]
  | case3 seen c after other ih =>
    -- An equals sign at the end of `after` is not half of the arrow: another one follows it.
    have apart : ∀ more, c = '=' → after ++ '=' :: '>' :: rest ≠ '>' :: more := by
      rintro more rfl same
      cases after with
      | nil => simp at same
      | cons d after =>
        obtain ⟨rfl, -⟩ := List.cons.inj same
        exact other after rfl rfl
    rw [List.cons_append, beforeArrows_cons_of_ne apart, ih]
    simp

theorem mem_beforeArrows {seen s a : List Char} :
    a ∈ beforeArrows seen s ↔ ∃ between rest, s = between ++ '=' :: '>' :: rest ∧
      a = seen.reverse ++ between := by
  constructor
  · intro h
    fun_induction beforeArrows seen s with
    | case1 seen => cases h
    | case2 seen after ih =>
      rcases List.mem_cons.mp h with rfl | h
      · exact ⟨[], after, rfl, (List.append_nil _).symm⟩
      · obtain ⟨between, rest, rfl, rfl⟩ := ih h
        exact ⟨'=' :: '>' :: between, rest, rfl, by simp⟩
    | case3 seen c after other ih =>
      obtain ⟨between, rest, rfl, rfl⟩ := ih h
      exact ⟨c :: between, rest, rfl, by simp⟩
  · rintro ⟨between, rest, rfl, rfl⟩
    rw [beforeArrows_append]
    simp

/-- The text up to the arrow of a parameter. -/
def upToArrow (before : List Char) (x : String) : List Char := before ++ x.toList ++ [' ']

/-- No arrow of a line behind the one of a parameter has the same name in front of it. -/
def IsLastArrow (line before : List Char) (x : String) : Prop :=
  ∀ between rest, line = upToArrow before x ++ "=>".toList ++ (between ++ "=>".toList ++ rest) →
    (arrowParameter (upToArrow before x ++ "=>".toList ++ between)).2 ≠ x.toList

theorem isLastArrow_append {before rest : List Char} {x : String} :
    IsLastArrow (upToArrow before x ++ "=>".toList ++ rest) before x ↔
      ∀ a ∈ beforeArrows (upToArrow before x ++ "=>".toList).reverse rest,
        (arrowParameter a).2 ≠ x.toList := by
  unfold IsLastArrow
  simp only [List.append_cancel_left_eq, mem_beforeArrows, List.reverse_reverse]
  constructor
  · rintro last a ⟨between, rest, rfl, rfl⟩
    exact last between rest (by simp)
  · rintro last between rest rfl
    exact last _ ⟨between, rest, by simp, rfl⟩

/-- The arrows behind a parameter's own can be looked through. -/
theorem isLastArrow_iff {line before : List Char} {x : String} :
    IsLastArrow line before x ↔
      ∀ rest ∈ afterStart? (upToArrow before x ++ "=>".toList) line,
        ∀ a ∈ beforeArrows (upToArrow before x ++ "=>".toList).reverse rest,
          (arrowParameter a).2 ≠ x.toList := by
  by_cases start : upToArrow before x ++ "=>".toList <+: line
  · obtain ⟨rest, rfl⟩ := start
    rw [isLastArrow_append, afterStart?_append]
    simp
  · have none : afterStart? (upToArrow before x ++ "=>".toList) line = none := by
      unfold afterStart?
      rw [if_neg (by rwa [List.isPrefixOf_iff_prefix])]
    rw [none]
    constructor
    · nofun
    · rintro - between rest rfl
      exact absurd (List.prefix_append ..) start

instance (line before : List Char) (x : String) : Decidable (IsLastArrow line before x) :=
  match found : afterStart? (upToArrow before x ++ "=>".toList) line with
  | none => isTrue (isLastArrow_iff.mpr (by rw [found]; nofun))
  | some rest =>
    decidable_of_iff (∀ a ∈ beforeArrows (upToArrow before x ++ "=>".toList).reverse rest,
      (arrowParameter a).2 ≠ x.toList) (by rw [isLastArrow_iff, found]; simp)

theorem arrowParameter_upToArrow {before : List Char} {x : String} (hx : IsName x)
    (opens : Opens before) : arrowParameter (upToArrow before x) = (before, x.toList) := by
  obtain ⟨word, left⟩ := word_append hx.continues opens.beforeWord
  have last := last_append_word before hx.continues hx.ne_nil
  have trimmed : trimEnd (upToArrow before x) = before ++ x.toList :=
    trimEnd_append_blank (fun c hc => isBlank_of_isWordChar (last c hc))
      (List.forall_mem_singleton.mpr (by decide))
  have bare : dropEnd (· = ')') (before ++ x.toList) = before ++ x.toList := by
    have dropped := dropEnd_append (· = ')') (w := []) (fun c hc =>
      decide_eq_false (isPlain_of_isWordChar (last c hc)).2.2.1) (by simp)
    rwa [List.append_nil] at dropped
  unfold arrowParameter
  rw [trimmed, bare]
  exact Prod.ext left word

/-- The text before the last binding of a parameter is the one in front of its own. -/
theorem beforeBinding?_eq_some {before rest : List Char} {x : String} (hx : IsName x)
    (opens : Opens before)
    (last : IsLastArrow (upToArrow before x ++ "=>".toList ++ rest) before x) :
    beforeBinding? (upToArrow before x ++ "=>".toList ++ rest) x.toList = some before := by
  have behind := isLastArrow_append.mp last
  have line : upToArrow before x ++ "=>".toList ++ rest =
      upToArrow before x ++ '=' :: '>' :: rest := List.append_assoc ..
  have start : '>' :: '=' :: ((upToArrow before x).reverse ++ []) =
      (upToArrow before x ++ "=>".toList).reverse := by simp
  have others : ((beforeArrows (upToArrow before x ++ "=>".toList).reverse rest).map
      arrowParameter).filter (·.2 = x.toList) = [] := by
    rw [List.filter_eq_nil_iff]
    intro found hf
    obtain ⟨a, ha, rfl⟩ := List.mem_map.mp hf
    simpa using behind a ha
  unfold beforeBinding? parameters
  rw [line, beforeArrows_append, start, List.map_append, List.map_cons, List.reverse_nil,
    List.nil_append, arrowParameter_upToArrow hx opens, List.filter_append, List.filter_cons,
    others]
  simp

/-! ## The call that a lambda is an argument of -/

/-- In front of a lambda stands the call it is the first argument of, or a comma. -/
theorem beforeDot?_of_beforeArgument {before : List Char} {target : Expr} {method : String}
    (hm : IsName method) (earlier : List Expr) :
    ∀ t ∈ beforeDot? (beforeWord (dropEnd (fun c => c = '(' || c = ' ')
        (trimEnd (before ++ target.beforeArgument method earlier)))),
      t = before ++ target.spelling := by
  have plain : ∀ c, isWordChar c = true → (decide (c = '(') || decide (c = ' ')) = false := by
    intro c hc
    have space : c ≠ ' ' := by
      rintro rfl
      revert hc
      decide
    simp [(isPlain_of_isWordChar hc).2.2.2, space]
  rcases List.eq_nil_or_concat earlier with rfl | ⟨more, e, rfl⟩
  · have text : before ++ target.beforeArgument method [] =
        before ++ target.spelling ++ ['.'] ++ method.toList ++ ['('] := by
      simp [beforeArgument]
    have last := last_append_word (before ++ target.spelling ++ ['.']) hm.continues hm.ne_nil
    obtain ⟨-, left⟩ := word_append hm.continues (beforeWord_append_dot (before ++ target.spelling))
    rw [text, trimEnd_eq_self (forall_mem_getLast?_concat.mpr (by decide)),
      dropEnd_append _ (fun c hc => plain c (last c hc))
        (List.forall_mem_singleton.mpr (by decide)),
      left, beforeDot?_append]
    simp
  · have text : before ++ target.beforeArgument method (more ++ [e]) =
        before ++ (target.beforeArgument method more ++ e.spelling) ++ [','] ++ [' '] := by
      simp [beforeArgument]
    have dropped := dropEnd_append (fun c => c = '(' || c = ' ')
      (t := before ++ (target.beforeArgument method more ++ e.spelling) ++ [',']) (w := [])
      (forall_mem_getLast?_concat.mpr (by decide)) (by simp)
    rw [List.append_nil] at dropped
    rw [List.concat_eq_append, text,
      trimEnd_append_blank (forall_mem_getLast?_concat.mpr (by decide))
        (List.forall_mem_singleton.mpr (by decide)), dropped,
      (word_of_beforeWord (beforeWord_append (by decide) _)).2,
      beforeDot?_eq_none (forall_mem_getLast?_concat.mpr (by decide))]
    intro t ht
    cases ht

variable (c : Completion κ ρ)

/-- The type of a parameter is found from the target of the call that its lambda is an
argument of. -/
theorem boundType?_own {line before : List Char} {links : Nat} {x method : String}
    {target : Expr} {earlier : List Expr} (hm : IsName method)
    (own : beforeBinding? line x.toList = some (before ++ target.beforeArgument method earlier)) :
    ∀ t ∈ c.boundType? line links x,
      ∃ n, ∃ receiver ∈ c.receiverType? line n (before ++ target.spelling),
        receiver.element? = some t := by
  intro t ht
  cases links with
  | zero => cases ht
  | succ links =>
    simp only [boundType?, own, Option.mem_def, Option.bind_eq_bind, Option.bind_some,
      Option.bind_eq_some_iff] at ht
    obtain ⟨text, htext, receiver, hr, ht⟩ := ht
    obtain rfl := beforeDot?_of_beforeArgument hm earlier text htext
    exact ⟨links, receiver, hr, ht⟩

/-! ## Parameters in scope -/

/-- Whether completion comes to the right lambda for a name: the arrow of its parameter is
the last one with this name in front, and so on for the name that the sequence of the
lambda starts from. The root goes before a parameter of the same name. -/
def Clear (line : List Char) : List (Opening κ) → String → Prop
  | [], _ => True
  | o :: outer, x =>
    if o.binder.name = x then
      x ≠ c.rootName ∧ IsLastArrow line o.before x ∧
        ∀ y ∈ o.target.startName?, Clear line outer y
    else Clear line outer x

instance decidableClear (line : List Char) :
    (openings : List (Opening κ)) → (x : String) → Decidable (c.Clear line openings x)
  | [], _ => isTrue trivial
  | o :: outer, x =>
    have := decidableClear line outer
    inferInstanceAs (Decidable (if o.binder.name = x then
      x ≠ c.rootName ∧ IsLastArrow line o.before x ∧
        ∀ y ∈ o.target.startName?, c.Clear line outer y
      else c.Clear line outer x))

/-- For the names that are clear, completion finds the types of their parameters. -/
def Resolves (line : List Char) (openings : List (Opening κ)) : Prop :=
  ∀ x b, (scopeOf openings).lookup? x = some b → c.Clear line openings x →
    ∀ links, ∀ t ∈ c.boundType? line links x, t = b.type

theorem ne_rootName_of_clear {line : List Char} {openings : List (Opening κ)} {x : String}
    {b : Binder κ} (bound : (scopeOf openings).lookup? x = some b)
    (clear : c.Clear line openings x) : x ≠ c.rootName := by
  induction openings with
  | nil => cases bound
  | cons o outer ih =>
    unfold Clear at clear
    split at clear
    · exact clear.1
    · rename_i other
      rw [lookup?_scopeOf_cons, if_neg other] at bound
      exact ih bound clear

section Places

variable {root : Root κ ρ} {line before : List Char} {openings : List (Opening κ)}

/-- What completion finds for a clear name has the type that the compiler gives the name. -/
theorem receiverType?_clear (name : root.name = c.rootName) (type : root.type = c.rootType)
    (resolves : c.Resolves line openings) (opens : Opens before) {x : String} (hx : IsName x)
    {q : Plan κ ρ} (hq : Plan.ofName root (scopeOf openings) x = .ok q)
    (clear : c.Clear line openings x) (links : Nat) :
    ∀ t ∈ c.receiverType? line links (before ++ x.toList), t = q.type c.schema := by
  intro t ht
  cases links with
  | zero => cases ht
  | succ links =>
    rw [c.receiverType?_name hx opens] at ht
    unfold Plan.ofName at hq
    split at hq
    · rename_i b bound
      cases hq
      rw [if_neg (c.ne_rootName_of_clear bound clear)] at ht
      exact resolves x b bound clear links t ht
    · split at hq
      · rename_i same
        cases hq
        rw [if_pos (same.trans name)] at ht
        cases ht
        exact type.symm
      · cases hq

variable [DecidableEq κ] {query part : Expr} {element : Option (ValueType κ)}

/-- From the last arrow of a parameter, if it is the parameter's own, completion comes to
the items of the sequence that its lambda goes through. -/
theorem boundType?_body (shared : c.schema.SharesReturns) (name : root.name = c.rootName)
    (type : root.type = c.rootType) (resolves : c.Resolves line openings) (opens : Opens before)
    {target body : Expr} {x method : String} {earlier later : List Expr} {source q : Plan κ ρ}
    (written : (Expr.call target method (earlier ++ .lambda x body :: later)).Written)
    (hq : Plan.compileIn c.schema root (scopeOf openings) element
      (.call target method (earlier ++ .lambda x body :: later)) = .ok q)
    (hs : Plan.compileIn c.schema root (scopeOf openings) element target = .ok source)
    (within : before ++ target.beforeArgument method earlier ++ (x.toList ++ " => ".toList) <+:
      line)
    (last : IsLastArrow line (before ++ target.beforeArgument method earlier) x)
    (start : ∀ y ∈ target.startName?, c.Clear line openings y) (links : Nat) :
    ∀ t ∈ c.boundType? line links x, (source.type c.schema).element? = some t := by
  cases written with
  | call operand target_written hm ha =>
    have receives := isReceiver_of_compileIn operand rfl hq
    have hx : IsName x := by
      cases ha (.lambda x body) (by simp) with
      | lambda hx _ => exact hx
    have own : beforeBinding? line x.toList =
        some (before ++ target.beforeArgument method earlier) := by
      obtain ⟨rest, rfl⟩ := within
      have line : before ++ target.beforeArgument method earlier ++
          (x.toList ++ " => ".toList) ++ rest =
          upToArrow (before ++ target.beforeArgument method earlier) x ++ "=>".toList ++
            (' ' :: rest) := by
        simp [upToArrow]
      rw [line] at last ⊢
      exact beforeBinding?_eq_some hx (opens_beforeArgument before target method earlier) last
    have found := fun n => c.receiverType?_chain line before shared target_written receives hs n
      fun y q hy hq n _ => c.receiverType?_clear name type resolves opens
        (target_written.isName_start hy) hq (start y hy) n
    intro t ht
    obtain ⟨n, receiver, hr, item⟩ := c.boundType?_own hm own t ht
    rw [found n receiver hr] at item
    exact item

/-- The parameters in scope anywhere in a query that compiles, by induction on the place:
only the body of a lambda has one more, which takes its type from the target of the call. -/
theorem resolves_of_stands (shared : c.schema.SharesReturns) (name : root.name = c.rootName)
    (type : root.type = c.rootType) (written : query.Written) {p : Plan κ ρ}
    (hp : Plan.compile c.schema root query = .ok p)
    (place : Stands c.schema root query before openings element part) (within : before <+: line) :
    c.Resolves line openings := by
  induction place with
  | whole =>
    intro x b bound
    cases bound
  | target _ _ ih => exact ih within
  | left _ ih => exact ih within
  | right _ ih => exact ih ((List.prefix_append ..).trans within)
  | argument _ _ _ ih => exact ih ((List.prefix_append ..).trans within)
  | @body before outer element target body x method earlier later source place hs ih =>
    have outside : before <+: line := by
      rw [List.append_assoc] at within
      exact (List.prefix_append ..).trans within
    intro y b bound clear links t ht
    -- The new name is told by its own lambda, every other one by the lambdas further out.
    unfold Clear at clear
    rw [lookup?_scopeOf_cons] at bound
    split at clear
    · rename_i same
      rw [if_pos same] at bound
      cases bound
      obtain rfl : x = y := same
      obtain ⟨-, last, start⟩ := clear
      obtain ⟨q, hq⟩ := place.compiles hp
      have item := c.boundType?_body shared name type (ih outside) place.opens
        (place.written written) hq hs within last start links t ht
      simp [Scope.bind, item]
    · rename_i other
      rw [if_neg other] at bound
      exact ih outside y b bound clear links t ht

/-! ## The law -/

/-- Behind a parameter and a dot, at any place of a query that compiles, completion offers
nothing or what fits the type that the compiler gives the parameter there, as long as the
arrows that it takes are those of the lambdas around the place. -/
theorem a_clear_parameter_is_completed_by_its_type (shared : c.schema.SharesReturns)
    (name : root.name = c.rootName) (type : root.type = c.rootType) (text : String) (e : Expr)
    (p : Plan κ ρ) (hq : Expr.parse text = .ok e) (hp : Plan.compile c.schema root e = .ok p)
    (place : Stands c.schema root e before openings element part) (x : String)
    (dotted : part.target? = some (.name x)) (b : Binder κ)
    (bound : (scopeOf openings).lookup? x = some b)
    (clear : c.Clear (before ++ x.toList ++ ['.']) openings x) :
    before ++ x.toList ++ ['.'] <+: e.toText.toList ∧
      Plan.compileIn c.schema root (scopeOf openings) element (.name x) = .ok (.parameter b) ∧
      ∃ cs, c.suggest (String.ofList (before ++ x.toList ++ ['.']))
          (utf8Length (before ++ x.toList ++ ['.'])) =
          (utf8Length (before ++ x.toList ++ ['.']), cs) ∧
        (cs = [] ∨ c.Offers b.type cs) := by
  have written := written_of_parse hq
  have compiled : Plan.ofName root (scopeOf openings) x = .ok (.parameter b) := by
    unfold Plan.ofName
    rw [bound]
  have hx : IsName x := by
    cases (place.target dotted).written written with
    | name hx => exact hx
  have resolves : c.Resolves (before ++ x.toList ++ ['.']) openings :=
    c.resolves_of_stands shared name type written hp place
      ((List.prefix_append ..).trans (List.prefix_append ..))
  have typed := c.receiverType?_clear name type resolves place.opens hx compiled clear maxLinks
  obtain ⟨cs, suggested, offered, -⟩ := c.suggest_of_receiverType? typed
  refine ⟨?_, compiled, cs, suggested, offered⟩
  rw [toText, String.toList_ofList, List.append_assoc]
  refine List.IsPrefix.trans ?_ place.isPrefix
  rw [List.prefix_append_right_inj]
  cases part with
  | member target field =>
    cases dotted
    exact ⟨field.toList, by simp [spelling]⟩
  | call target method arguments =>
    cases dotted
    exact ⟨method.toList ++ '(' :: spellings arguments ++ [')'], by simp [spelling]⟩
  | _ => cases dotted

end Places

/-- Lambdas side by side share the name of their parameter, and a string holds an arrow. -/
def sideBySide : Expr :=
  .call (.name "Commits") "Where" [.lambda "c" (.binary
    (.call (.member (.member (.name "c") "Diff") "Files") "Any"
      [.lambda "f" (.call (.name "f") "AddedContains" [.text "a => b"])])
    (.connect .and) (.call (.member (.member (.name "c") "Diff") "Files") "Any"
      [.lambda "f" (.member (.name "f") "IsBinary")]))]

theorem stands_sideBySide : ∃ before openings element b,
    Stands overCommits.schema (.ofCommits [.blank]) sideBySide before openings element
      (.member (.name "f") "IsBinary") ∧
    (scopeOf openings).lookup? "f" = some b ∧ b.type = .record .file ∧
    overCommits.Clear (before ++ "f".toList ++ ['.']) openings "f" := by
  have start : Stands overCommits.schema (.ofCommits [.blank]) sideBySide [] [] none sideBySide :=
    .whole
  have commits : Plan.compileIn overCommits.schema (.ofCommits [.blank]) (scopeOf []) none
      (.name "Commits") = .ok (.constant (Root.ofCommits [.blank]).value) := rfl
  obtain ⟨files, compiled, type⟩ : ∃ files, Plan.compileIn overCommits.schema (.ofCommits [.blank])
      [⟨"c", 0, .record .commit⟩] (some (.record .commit))
      (.member (.member (.name "c") "Diff") "Files") = .ok files ∧
      files.type overCommits.schema = .sequence (.record .file) := ⟨_, by cbv, by cbv⟩
  have inner := (start.only commits).right.only compiled
  rw [type] at inner
  refine ⟨_, _, _, _, inner, rfl, rfl, ?_⟩
  decide +kernel

/-- What a file has is completed behind a parameter that another lambda has bound before,
past a string that holds an arrow. -/
theorem a_parameter_beside_others_is_completed :
    overCommits.schema.SharesReturns ∧
      (Root.ofCommits [.blank] : Root (Kind Empty) (Record Empty)).name = overCommits.rootName ∧
      (Root.ofCommits [.blank] : Root (Kind Empty) (Record Empty)).type = overCommits.rootType ∧
      Expr.parse sideBySide.toText = .ok sideBySide ∧
      ∃ p, Plan.compile overCommits.schema (.ofCommits [.blank]) sideBySide = .ok p ∧
        ∃ before openings element b,
          Stands overCommits.schema (.ofCommits [.blank]) sideBySide before openings element
            (.member (.name "f") "IsBinary") ∧
          (scopeOf openings).lookup? "f" = some b ∧ b.type = .record .file ∧
          overCommits.Clear (before ++ "f".toList ++ ['.']) openings "f" ∧
          ∃ cs, overCommits.suggest (String.ofList (before ++ "f".toList ++ ['.']))
              (utf8Length (before ++ "f".toList ++ ['.'])) =
              (utf8Length (before ++ "f".toList ++ ['.']), cs) ∧
            (cs = [] ∨ overCommits.Offers (.record .file) cs) := by
  have hq : Expr.parse sideBySide.toText = .ok sideBySide := by cbv
  obtain ⟨p, hp⟩ : ∃ p, Plan.compile overCommits.schema (.ofCommits [.blank]) sideBySide = .ok p :=
    ⟨_, by cbv⟩
  obtain ⟨before, openings, element, b, place, bound, type, clear⟩ := stands_sideBySide
  have law := overCommits.a_clear_parameter_is_completed_by_its_type
    sharesReturns_schema_nothing rfl rfl _ sideBySide p hq hp place "f" rfl b bound clear
  obtain ⟨-, -, cs, suggested, offered⟩ := law
  rw [type] at offered
  exact ⟨sharesReturns_schema_nothing, rfl, rfl, hq, p, hp, before, openings, element, b, place,
    bound, type, clear, cs, suggested, offered⟩

/-- The lambda inside binds the name of the one around it, and ends before the name is used
again. -/
def rebinding : Expr :=
  .call (.name "Commits") "Where" [.lambda "c" (.binary
    (.call (.member (.member (.call (.name "Commits") "First" []) "Diff") "Files") "Any"
      [.lambda "c" (.member (.name "c") "IsBinary")])
    (.connect .and) (.binary (.member (.name "c") "Sha") (.compare .equal) (.text "a")))]

example : rebinding.toText =
    "Commits.Where(c => Commits.First().Diff.Files.Any(c => c.IsBinary) && c.Sha == \"a\")" := by
  cbv

/-- Commits have nothing that is called like the flag of a file. -/
theorem not_offers_commit {cs : List Candidate} (h : overCommits.Offers (.record .file) cs) :
    cs ≠ [] ∧ ¬ overCommits.Offers (.record .commit) cs := by
  have flag := h.all ⟨"IsBinary", "IsBinary", "Bool"⟩ (overCommits.mem_membersOf.mp (by decide))
  obtain ⟨x, hx, named⟩ := List.mem_map.mp flag
  refine ⟨List.ne_nil_of_mem hx, fun offers => ?_⟩
  have none : ∀ y ∈ overCommits.membersOf (.record .commit), y.name ≠ "IsBinary" := by decide
  exact none x (overCommits.mem_membersOf.mpr (offers.own x hx)) named

/-- A closed lambda that binds the same name takes the place of the one around the dot: the
members of files are offered for a commit. -/
theorem a_rebound_parameter_is_completed_by_another_type :
    Expr.parse rebinding.toText = .ok rebinding ∧
      ∃ p, Plan.compile overCommits.schema (.ofCommits [.blank]) rebinding = .ok p ∧
        ∃ before openings element b,
          Stands overCommits.schema (.ofCommits [.blank]) rebinding before openings element
            (.member (.name "c") "Sha") ∧
          (scopeOf openings).lookup? "c" = some b ∧ b.type = .record .commit ∧
          ∃ cs, overCommits.suggest (String.ofList (before ++ "c".toList ++ ['.']))
              (utf8Length (before ++ "c".toList ++ ['.'])) =
              (utf8Length (before ++ "c".toList ++ ['.']), cs) ∧
            cs ≠ [] ∧ ¬ overCommits.Offers (.record .commit) cs := by
  have start : Stands overCommits.schema (.ofCommits [.blank]) rebinding [] [] none rebinding :=
    .whole
  have commits : Plan.compileIn overCommits.schema (.ofCommits [.blank]) (scopeOf []) none
      (.name "Commits") = .ok (.constant (Root.ofCommits [.blank]).value) := rfl
  have place := (start.only commits).right.left
  refine ⟨by cbv, _, by cbv, _, _, _, _, place, rfl, rfl, _, overCommits.suggest_dot _, ?_⟩
  generalize found : overCommits.receiverType? _ maxLinks _ = type
  have file : type = some (.record .file) := by
    rw [← found]
    decide +kernel
  rw [file]
  exact not_offers_commit (overCommits.offers_distinct _)

end Completion

end CommitQuery
