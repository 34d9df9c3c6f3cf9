-- The grammar of queries as derivations over lists of lexemes, each with the tree that
-- it gives, and the first half of what ties the reader to it: the reader follows every
-- derivation to a place where it holds the derivation's tree.
import CommitQuery.Query.Reader

namespace CommitQuery.Query

/-! ## Derivations -/

namespace Grammar

/-- The parameter of a lambda, with or without brackets. -/
inductive Parameter : List Lexeme → String → Prop
  | bare (x : String) : Parameter [.name x] x
  | bracketed (x : String) : Parameter [.openParen, .name x, .closeParen] x

mutual

/-- A lambda, whose body is an expression again, or operands joined by operators. -/
inductive Expression : List Lexeme → Expr → Prop
  | lambda {ps ls : List Lexeme} {x : String} {body : Expr} (hp : Parameter ps x)
      (hb : Expression ls body) : Expression (ps ++ .arrow :: ls) (.lambda x body)
  | either {ls : List Lexeme} {e : Expr} (h : Either ls e) : Expression ls e

/-- A row joined by `||`, to the left. -/
inductive Either : List Lexeme → Expr → Prop
  | one {ls : List Lexeme} {e : Expr} (h : Both ls e) : Either ls e
  | or {ls rs : List Lexeme} {left right : Expr} (hl : Either ls left) (hr : Both rs right) :
      Either (ls ++ .connective .or :: rs) (.binary left (.connect .or) right)

/-- A row joined by `&&`, to the left. -/
inductive Both : List Lexeme → Expr → Prop
  | one {ls : List Lexeme} {e : Expr} (h : Compared ls e) : Both ls e
  | and {ls rs : List Lexeme} {left right : Expr} (hl : Both ls left) (hr : Compared rs right) :
      Both (ls ++ .connective .and :: rs) (.binary left (.connect .and) right)

/-- One operand, or a comparison of two. -/
inductive Compared : List Lexeme → Expr → Prop
  | one {ls : List Lexeme} {e : Expr} (h : Operand ls e) : Compared ls e
  | compare {ls rs : List Lexeme} {left right : Expr} (hl : Operand ls left) (c : Comparison)
      (hr : Operand rs right) :
      Compared (ls ++ .comparison c :: rs) (.binary left (.compare c) right)

/-- A name, a string or a number, with members and calls after it. -/
inductive Operand : List Lexeme → Expr → Prop
  | name (s : String) : Operand [.name s] (.name s)
  | text (s : String) : Operand [.text s] (.text s)
  | number (n : Int32) : Operand [.number n] (.number n)
  | member {ls : List Lexeme} {target : Expr} (ht : Operand ls target) (field : String) :
      Operand (ls ++ [.dot, .name field]) (.member target field)
  | call {ls as : List Lexeme} {target : Expr} {arguments : List Expr} (ht : Operand ls target)
      (method : String) (ha : Arguments as arguments) :
      Operand (ls ++ [.dot, .name method, .openParen] ++ as ++ [.closeParen])
        (.call target method arguments)

/-- What stands between the brackets of a call. -/
inductive Arguments : List Lexeme → List Expr → Prop
  | none : Arguments [] []
  | some {ls : List Lexeme} {es : List Expr} (h : ArgumentList ls es) : Arguments ls es

/-- Expressions with a comma between each two. -/
inductive ArgumentList : List Lexeme → List Expr → Prop
  | one {ls : List Lexeme} {e : Expr} (h : Expression ls e) : ArgumentList ls [e]
  | more {ls rs : List Lexeme} {es : List Expr} {e : Expr} (h : ArgumentList ls es)
      (he : Expression rs e) : ArgumentList (ls ++ .comma :: rs) (es ++ [e])

end

end Grammar

/-! ## Readings -/

/-- The reader gets from one state to another over some lexemes. -/
def Reads (r : Reader) (ls : List Lexeme) (after : Reader) : Prop :=
  ls.foldlM Reader.read? r = some after

theorem Reads.one {r after : Reader} {l : Lexeme} (h : r.read? l = some after) :
    Reads r [l] after := by
  simp [Reads, h]

theorem Reads.append {r middle after : Reader} {ls rs : List Lexeme} (hl : Reads r ls middle)
    (hr : Reads middle rs after) : Reads r (ls ++ rs) after := by
  unfold Reads at *
  rw [List.foldlM_append, hl]
  exact hr

theorem Reads.cons {r middle after : Reader} {l : Lexeme} {rs : List Lexeme}
    (hl : r.read? l = some middle) (hr : Reads middle rs after) : Reads r (l :: rs) after :=
  (Reads.one hl).append hr

/-- A stage in which an operand starts. -/
def Stage.starts : Stage → Bool
  | .expression | .operand | .firstArgument => true
  | _ => false

/-- A stage in which a whole operand was read. A name after a dot is a member, until a
bracket after it makes it a method. -/
inductive Stage.Holds : Stage → Expr → Prop
  | operand (e : Expr) (parameter? : Option String) : Holds (.afterOperand e parameter?) e
  | field (target : Expr) (field : String) : Holds (.afterField target field) (.member target field)

/-- The operand that a stage holds goes on, but for the two lexemes that give its last
name another meaning. -/
theorem read?_of_holds {stage : Stage} {e : Expr} (h : stage.Holds e) (w : Waiting)
    (frames : List Frame) (l : Lexeme) (arrow : l ≠ .arrow) (bracket : l ≠ .openParen) :
    Reader.read? ⟨stage, w, frames⟩ l = Reader.afterOperand ⟨stage, w, frames⟩ e l := by
  cases h with
  | operand _ parameter? =>
    cases parameter? with
    | none => cases l <;> rfl
    | some x =>
      cases l with
      | arrow => exact absurd rfl arrow
      | _ => rfl
  | field target field =>
    cases l with
    | openParen => exact absurd rfl bracket
    | _ => rfl

theorem read?_dot {stage : Stage} {e : Expr} (h : stage.Holds e) (w : Waiting)
    (frames : List Frame) :
    Reader.read? ⟨stage, w, frames⟩ .dot = some ⟨.fieldName e, w, frames⟩ := by
  rw [read?_of_holds h w frames .dot (by simp) (by simp)]
  rfl

theorem result?_of_holds {stage : Stage} {e : Expr} (h : stage.Holds e) (w : Waiting)
    (frames : List Frame) :
    Reader.result? ⟨stage, w, frames⟩ =
      match closeLambdas (w.closeEither e) frames with
      | (whole, []) => some whole
      | _ => none := by
  cases h <;> rfl

/-- A query ends only where an operand is held. -/
theorem holds_of_result? {stage : Stage} {w : Waiting} {frames : List Frame} {e : Expr}
    (h : Reader.result? ⟨stage, w, frames⟩ = some e) : ∃ o, stage.Holds o := by
  cases stage with
  | afterOperand o parameter? => exact ⟨o, .operand o parameter?⟩
  | afterField target field => exact ⟨.member target field, .field target field⟩
  | _ => cases h

/-! ## What the reader makes of each part -/

namespace Grammar

/-- An operand is read in any stage where one starts, and nothing else changes. -/
def ReadsOperand (ls : List Lexeme) (e : Expr) : Prop :=
  ∀ (stage : Stage) (w : Waiting) (frames : List Frame), stage.starts = true →
    ∃ after : Stage, after.Holds e ∧ Reads ⟨stage, w, frames⟩ ls ⟨after, w, frames⟩

/-- The last operand of a comparison is held, and the comparison waits for it. -/
def ReadsCompared (ls : List Lexeme) (e : Expr) : Prop :=
  ∀ (stage : Stage) (w : Waiting) (frames : List Frame), stage.starts = true →
    w.compared = none → ∃ (after : Stage) (last : Expr) (w' : Waiting), after.Holds last ∧
      Reads ⟨stage, w, frames⟩ ls ⟨after, w', frames⟩ ∧ w'.either = w.either ∧
      w'.both = w.both ∧ w'.closeCompared last = e

/-- The last operand of a row of `&&` is held, and the row waits for it. -/
def ReadsBoth (ls : List Lexeme) (e : Expr) : Prop :=
  ∀ (stage : Stage) (w : Waiting) (frames : List Frame), stage.starts = true →
    w.both = none → w.compared = none →
    ∃ (after : Stage) (last : Expr) (w' : Waiting), after.Holds last ∧
      Reads ⟨stage, w, frames⟩ ls ⟨after, w', frames⟩ ∧ w'.either = w.either ∧
      w'.closeBoth last = e

/-- The last operand of a row of `||` is held, and the row waits for it. -/
def ReadsEither (ls : List Lexeme) (e : Expr) : Prop :=
  ∀ (stage : Stage) (frames : List Frame), stage.starts = true →
    ∃ (after : Stage) (last : Expr) (w : Waiting), after.Holds last ∧
      Reads ⟨stage, .nothing, frames⟩ ls ⟨after, w, frames⟩ ∧ w.closeEither last = e

/-- The last operand of an expression is held. The lambdas that it ends are still open, but
to close them and to close the whole expression comes to the same. -/
def ReadsExpression (ls : List Lexeme) (e : Expr) : Prop :=
  ∀ (stage : Stage) (frames : List Frame), stage = .expression ∨ stage = .firstArgument →
    ∃ (after : Stage) (last : Expr) (w : Waiting) (inner : List Frame), after.Holds last ∧
      Reads ⟨stage, .nothing, frames⟩ ls ⟨after, w, inner⟩ ∧
      closeLambdas (w.closeEither last) inner = closeLambdas e frames

/-- All arguments but the last wait in their frame, and the last one is about to close. -/
def ReadsArgumentList (ls : List Lexeme) (es : List Expr) : Prop :=
  ∀ (target : Expr) (method : String) (outer : Waiting) (frames : List Frame),
    ∃ (after : Stage) (last : Expr) (w : Waiting) (inner : List Frame) (before : List Expr)
        (whole : Expr), after.Holds last ∧
      Reads ⟨.firstArgument, .nothing, .argument target method [] outer :: frames⟩ ls
        ⟨after, w, inner⟩ ∧
      closeLambdas (w.closeEither last) inner =
        (whole, .argument target method before outer :: frames) ∧
      before ++ [whole] = es

/-- The bracket after the arguments makes the call the operand. -/
def ReadsArguments (ls : List Lexeme) (es : List Expr) : Prop :=
  ∀ (target : Expr) (method : String) (outer : Waiting) (frames : List Frame),
    Reads ⟨.firstArgument, .nothing, .argument target method [] outer :: frames⟩
      (ls ++ [.closeParen]) ⟨.afterOperand (.call target method es) none, outer, frames⟩

/-! ## Operands -/

theorem readsOperand_primary {l : Lexeme} {e : Expr} (h : primary? l = some e) :
    ReadsOperand [l] e := by
  intro stage w frames hs
  cases stage with
  | operand =>
    refine ⟨.afterOperand e none, .operand e none, .one ?_⟩
    simp [Reader.read?, h]
  | expression | firstArgument =>
    cases l with
    | name s =>
      cases h
      exact ⟨.afterOperand (.name s) (some s), .operand _ _, rfl⟩
    | text s =>
      cases h
      exact ⟨.afterOperand (.text s) none, .operand _ _, rfl⟩
    | number n =>
      cases h
      exact ⟨.afterOperand (.number n) none, .operand _ _, rfl⟩
    | _ => cases h
  | _ => cases hs

theorem readsOperand_member {ls : List Lexeme} {target : Expr} (ht : ReadsOperand ls target)
    (field : String) : ReadsOperand (ls ++ [.dot, .name field]) (.member target field) := by
  intro stage w frames hs
  obtain ⟨middle, holds, reads⟩ := ht stage w frames hs
  refine ⟨.afterField target field, .field target field, reads.append ?_⟩
  exact .cons (read?_dot holds w frames) rfl

theorem readsOperand_call {ls as : List Lexeme} {target : Expr} {arguments : List Expr}
    (ht : ReadsOperand ls target) (method : String) (ha : ReadsArguments as arguments) :
    ReadsOperand (ls ++ [.dot, .name method, .openParen] ++ as ++ [.closeParen])
      (.call target method arguments) := by
  intro stage w frames hs
  obtain ⟨middle, holds, reads⟩ := ht stage w frames hs
  refine ⟨.afterOperand (.call target method arguments) none, .operand _ _, ?_⟩
  rw [List.append_assoc, List.append_assoc]
  refine reads.append (.cons (read?_dot holds w frames) ?_)
  exact ha target method w frames

/-! ## Operators -/

theorem ReadsOperand.compared {ls : List Lexeme} {e : Expr} (h : ReadsOperand ls e) :
    ReadsCompared ls e := by
  intro stage w frames hs hc
  obtain ⟨after, holds, reads⟩ := h stage w frames hs
  refine ⟨after, e, w, holds, reads, rfl, rfl, ?_⟩
  rw [Waiting.closeCompared, hc]

theorem readsCompared_compare {ls rs : List Lexeme} {left right : Expr}
    (hl : ReadsOperand ls left) (c : Comparison) (hr : ReadsOperand rs right) :
    ReadsCompared (ls ++ .comparison c :: rs) (.binary left (.compare c) right) := by
  intro stage w frames hs hc
  obtain ⟨middle, holds, readsl⟩ := hl stage w frames hs
  obtain ⟨after, holds', readsr⟩ :=
    hr .operand { w with compared := some (left, c) } frames rfl
  refine ⟨after, right, _, holds', readsl.append (.cons ?_ readsr), rfl, rfl, rfl⟩
  rw [read?_of_holds holds w frames (.comparison c) (by simp) (by simp)]
  simp [Reader.afterOperand, hc]

theorem ReadsCompared.both {ls : List Lexeme} {e : Expr} (h : ReadsCompared ls e) :
    ReadsBoth ls e := by
  intro stage w frames hs hb hc
  obtain ⟨after, last, w', holds, reads, either, both, closed⟩ := h stage w frames hs hc
  refine ⟨after, last, w', holds, reads, either, ?_⟩
  rw [Waiting.closeBoth, both, hb]
  exact closed

theorem readsBoth_and {ls rs : List Lexeme} {left right : Expr} (hl : ReadsBoth ls left)
    (hr : ReadsCompared rs right) :
    ReadsBoth (ls ++ .connective .and :: rs) (.binary left (.connect .and) right) := by
  intro stage w frames hs hb hc
  obtain ⟨middle, last, w', holds, readsl, either, closed⟩ := hl stage w frames hs hb hc
  obtain ⟨after, last', w'', holds', readsr, either', both', closed'⟩ :=
    hr .operand ⟨w'.either, some left, none⟩ frames rfl rfl
  refine ⟨after, last', w'', holds', readsl.append (.cons ?_ readsr), ?_, ?_⟩
  · rw [read?_of_holds holds w' frames (.connective .and) (by simp) (by simp),
      Reader.afterOperand, closed]
  · rw [either']
    exact either
  · rw [Waiting.closeBoth, both', closed']

theorem ReadsBoth.either {ls : List Lexeme} {e : Expr} (h : ReadsBoth ls e) :
    ReadsEither ls e := by
  intro stage frames hs
  obtain ⟨after, last, w, holds, reads, same, closed⟩ := h stage .nothing frames hs rfl rfl
  refine ⟨after, last, w, holds, reads, ?_⟩
  rw [Waiting.closeEither, same]
  exact closed

theorem readsEither_or {ls rs : List Lexeme} {left right : Expr} (hl : ReadsEither ls left)
    (hr : ReadsBoth rs right) :
    ReadsEither (ls ++ .connective .or :: rs) (.binary left (.connect .or) right) := by
  intro stage frames hs
  obtain ⟨middle, last, w, holds, readsl, closed⟩ := hl stage frames hs
  obtain ⟨after, last', w', holds', readsr, same', closed'⟩ :=
    hr .operand ⟨some left, none, none⟩ frames rfl rfl rfl
  refine ⟨after, last', w', holds', readsl.append (.cons ?_ readsr), ?_⟩
  · rw [read?_of_holds holds w frames (.connective .or) (by simp) (by simp), Reader.afterOperand,
      closed]
  · rw [Waiting.closeEither, same', closed']

/-! ## Expressions and arguments -/

theorem ReadsEither.expression {ls : List Lexeme} {e : Expr} (h : ReadsEither ls e) :
    ReadsExpression ls e := by
  intro stage frames hs
  have starts : stage.starts = true := by
    rcases hs with rfl | rfl <;> rfl
  obtain ⟨after, last, w, holds, reads, closed⟩ := h stage frames starts
  exact ⟨after, last, w, frames, holds, reads, by rw [closed]⟩

/-- A parameter and its arrow open the body of a lambda. -/
theorem Parameter.reads {ps : List Lexeme} {x : String} (h : Parameter ps x) {stage : Stage}
    (hs : stage = .expression ∨ stage = .firstArgument) (frames : List Frame) :
    Reads ⟨stage, .nothing, frames⟩ (ps ++ [.arrow])
      ⟨.expression, .nothing, .body x :: frames⟩ := by
  rcases hs with rfl | rfl
  all_goals cases h <;> rfl

theorem readsExpression_lambda {ps ls : List Lexeme} {x : String} {body : Expr}
    (hp : Parameter ps x) (hb : ReadsExpression ls body) :
    ReadsExpression (ps ++ .arrow :: ls) (.lambda x body) := by
  intro stage frames hs
  obtain ⟨after, last, w, inner, holds, reads, closed⟩ :=
    hb .expression (.body x :: frames) (.inl rfl)
  refine ⟨after, last, w, inner, holds, ?_, closed⟩
  rw [List.append_cons]
  exact (hp.reads hs frames).append reads

theorem readsArgumentList_one {ls : List Lexeme} {e : Expr} (h : ReadsExpression ls e) :
    ReadsArgumentList ls [e] := by
  intro target method outer frames
  obtain ⟨after, last, w, inner, holds, reads, closed⟩ :=
    h .firstArgument (.argument target method [] outer :: frames) (.inr rfl)
  exact ⟨after, last, w, inner, [], e, holds, reads, closed, rfl⟩

theorem readsArgumentList_more {ls rs : List Lexeme} {es : List Expr} {e : Expr}
    (h : ReadsArgumentList ls es) (he : ReadsExpression rs e) :
    ReadsArgumentList (ls ++ .comma :: rs) (es ++ [e]) := by
  intro target method outer frames
  obtain ⟨middle, last, w, inner, before, whole, holds, readsl, closed, all⟩ :=
    h target method outer frames
  obtain ⟨after, last', w', inner', holds', readsr, closed'⟩ :=
    he .expression (.argument target method es outer :: frames) (.inl rfl)
  refine ⟨after, last', w', inner', es, e, holds', readsl.append (.cons ?_ readsr), closed', rfl⟩
  rw [read?_of_holds holds w inner .comma (by simp) (by simp)]
  simp only [Reader.afterOperand, Reader.closeExpression, closed, all]

theorem ReadsArgumentList.arguments {ls : List Lexeme} {es : List Expr}
    (h : ReadsArgumentList ls es) : ReadsArguments ls es := by
  intro target method outer frames
  obtain ⟨after, last, w, inner, before, whole, holds, reads, closed, all⟩ :=
    h target method outer frames
  refine reads.append (.one ?_)
  rw [read?_of_holds holds w inner .closeParen (by simp) (by simp)]
  simp only [Reader.afterOperand, Reader.closeExpression, closed, all]

/-! ## The reader follows every derivation -/

mutual

theorem Expression.reads {ls : List Lexeme} {e : Expr} : Expression ls e → ReadsExpression ls e
  | .lambda hp hb => readsExpression_lambda hp hb.reads
  | .either h => h.reads.expression

theorem Either.reads {ls : List Lexeme} {e : Expr} : Either ls e → ReadsEither ls e
  | .one h => h.reads.either
  | .or hl hr => readsEither_or hl.reads hr.reads

theorem Both.reads {ls : List Lexeme} {e : Expr} : Both ls e → ReadsBoth ls e
  | .one h => h.reads.both
  | .and hl hr => readsBoth_and hl.reads hr.reads

theorem Compared.reads {ls : List Lexeme} {e : Expr} : Compared ls e → ReadsCompared ls e
  | .one h => h.reads.compared
  | .compare hl c hr => readsCompared_compare hl.reads c hr.reads

theorem Operand.reads {ls : List Lexeme} {e : Expr} : Operand ls e → ReadsOperand ls e
  | .name _ => readsOperand_primary rfl
  | .text _ => readsOperand_primary rfl
  | .number _ => readsOperand_primary rfl
  | .member ht field => readsOperand_member ht.reads field
  | .call ht method ha => readsOperand_call ht.reads method ha.reads

theorem Arguments.reads {ls : List Lexeme} {es : List Expr} :
    Arguments ls es → ReadsArguments ls es
  | .none => fun _ _ _ _ => rfl
  | .some h => h.reads.arguments

theorem ArgumentList.reads {ls : List Lexeme} {es : List Expr} :
    ArgumentList ls es → ReadsArgumentList ls es
  | .one h => readsArgumentList_one h.reads
  | .more h he => readsArgumentList_more h.reads he.reads

end

/-- A derived query is read as its tree. -/
theorem Expression.result {ls : List Lexeme} {e : Expr} (h : Expression ls e) :
    ∃ after, Reads .start ls after ∧ after.result? = some e := by
  obtain ⟨stage, last, w, inner, holds, reads, closed⟩ := h.reads .expression [] (.inl rfl)
  refine ⟨⟨stage, w, inner⟩, reads, ?_⟩
  rw [result?_of_holds holds w inner, closed]
  rfl

end Grammar

end CommitQuery.Query
