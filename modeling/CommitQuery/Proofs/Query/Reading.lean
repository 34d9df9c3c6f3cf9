-- The second half of what ties the reader to the grammar: whatever the reader holds is
-- derived from the lexemes that it read. With the first half, a list of tokens is read
-- as a query exactly when the grammar derives it, and then as the one tree that it has.
import CommitQuery.Proofs.Plan.Walk
import CommitQuery.Proofs.Query.Grammar

namespace CommitQuery.Query

open Grammar

/-! ## What was read -/

/-- A left side of `||` with its operator, if one waits. -/
inductive EitherRead : Option Expr → List Lexeme → Prop
  | none : EitherRead none []
  | some {ls : List Lexeme} {e : Expr} (h : Either ls e) :
      EitherRead (some e) (ls ++ [.connective .or])

/-- A left side of `&&` with its operator, if one waits. -/
inductive BothRead : Option Expr → List Lexeme → Prop
  | none : BothRead none []
  | some {ls : List Lexeme} {e : Expr} (h : Both ls e) :
      BothRead (some e) (ls ++ [.connective .and])

/-- A left side of a comparison with its operator, if one waits. -/
inductive ComparedRead : Option (Expr × Comparison) → List Lexeme → Prop
  | none : ComparedRead none []
  | some {ls : List Lexeme} {e : Expr} (h : Operand ls e) (c : Comparison) :
      ComparedRead (some (e, c)) (ls ++ [.comparison c])

/-- The left sides that wait, the loosest operator first. -/
inductive WaitingRead (w : Waiting) : List Lexeme → Prop
  | intro {es bs cs : List Lexeme} (he : EitherRead w.either es) (hb : BothRead w.both bs)
      (hc : ComparedRead w.compared cs) : WaitingRead w (es ++ bs ++ cs)

/-- Arguments with a comma after each. -/
inductive BeforeRead : List Expr → List Lexeme → Prop
  | nil : BeforeRead [] []
  | comma {ls : List Lexeme} {es : List Expr} (h : ArgumentList ls es) :
      BeforeRead es (ls ++ [.comma])

/-- What surrounds the expression being read, the innermost frame last. -/
inductive FramesRead : List Frame → List Lexeme → Prop
  | nil : FramesRead [] []
  | body {frames : List Frame} {fs ps : List Lexeme} {x : String} (h : FramesRead frames fs)
      (hp : Parameter ps x) : FramesRead (.body x :: frames) (fs ++ ps ++ [.arrow])
  | argument {frames : List Frame} {fs ws ts bs : List Lexeme} {outer : Waiting} {target : Expr}
      {before : List Expr} (h : FramesRead frames fs) (hw : WaitingRead outer ws)
      (ht : Operand ts target) (method : String) (hb : BeforeRead before bs) :
      FramesRead (.argument target method before outer :: frames)
        (fs ++ ws ++ ts ++ [.dot, .name method, .openParen] ++ bs)

/-- What a stage has read of its own. -/
inductive StageRead : Stage → List Lexeme → Prop
  | expression : StageRead .expression []
  | operand : StageRead .operand []
  | firstArgument : StageRead .firstArgument []
  | parameter : StageRead .parameter [.openParen]
  | parameterClose (x : String) : StageRead (.parameterClose x) [.openParen, .name x]
  | parameterArrow (x : String) :
      StageRead (.parameterArrow x) [.openParen, .name x, .closeParen]
  | fieldName {ls : List Lexeme} {target : Expr} (h : Operand ls target) :
      StageRead (.fieldName target) (ls ++ [.dot])
  | afterField {ls : List Lexeme} {target : Expr} (h : Operand ls target) (field : String) :
      StageRead (.afterField target field) (ls ++ [.dot, .name field])
  | afterOperand {ls : List Lexeme} {e : Expr} (h : Operand ls e) :
      StageRead (.afterOperand e none) ls
  | afterName (x : String) : StageRead (.afterOperand (.name x) (some x)) [.name x]

/-- Stages at the start of an expression, in which no operator can wait yet. -/
def Stage.isFresh : Stage → Bool
  | .expression | .firstArgument | .parameter | .parameterClose _ | .parameterArrow _ => true
  | .afterOperand _ (some _) => true
  | _ => false

/-- A reader that read some lexemes: the parts it holds are derived from them in order. -/
structure HasRead (r : Reader) (ls : List Lexeme) : Prop where
  fresh : r.stage.isFresh = true → r.waiting = .nothing
  first : r.stage = .firstArgument → ∃ target method outer frames,
    r.frames = .argument target method [] outer :: frames
  parts : ∃ fs ws ss, ls = fs ++ ws ++ ss ∧ FramesRead r.frames fs ∧
    WaitingRead r.waiting ws ∧ StageRead r.stage ss

/-- An operand that a stage holds is derived from what the stage has read. -/
theorem StageRead.held {stage : Stage} {ss : List Lexeme} {o : Expr} (h : StageRead stage ss)
    (ho : stage.Holds o) : Operand ss o := by
  cases ho with
  | operand _ parameter? =>
    cases h with
    | afterOperand h => exact h
    | afterName x => exact .name x
  | field target field =>
    cases h with
    | afterField ht field => exact .member ht field

theorem waitingRead_nothing : WaitingRead .nothing [] := by
  have h : WaitingRead .nothing ([] ++ [] ++ []) := .intro .none .none .none
  exact h

theorem WaitingRead.nothing_eq {ws : List Lexeme} (h : WaitingRead .nothing ws) : ws = [] := by
  obtain ⟨he, hb, hc⟩ := h
  cases he
  cases hb
  cases hc
  rfl

theorem hasRead_fresh {stage : Stage} {frames : List Frame} {fs ss : List Lexeme}
    (later : stage ≠ .firstArgument) (hf : FramesRead frames fs) (hs : StageRead stage ss) :
    HasRead ⟨stage, .nothing, frames⟩ (fs ++ ss) where
  fresh _ := rfl
  first same := absurd same later
  parts := ⟨fs, [], ss, by simp, hf, waitingRead_nothing, hs⟩

theorem hasRead_within {stage : Stage} {w : Waiting} {frames : List Frame}
    {fs ws ss : List Lexeme} (within : stage.isFresh = false) (hf : FramesRead frames fs)
    (hw : WaitingRead w ws) (hs : StageRead stage ss) :
    HasRead ⟨stage, w, frames⟩ (fs ++ ws ++ ss) where
  fresh h := by simp [within] at h
  first same := by
    have late : Stage.firstArgument.isFresh = false := same ▸ within
    cases late
  parts := ⟨fs, ws, ss, rfl, hf, hw, hs⟩

/-! ## What ends -/

section Close

variable {w : Waiting} {o : Expr} {os : List Lexeme}

theorem ComparedRead.close {cs : List Lexeme} (h : ComparedRead w.compared cs)
    (ho : Operand os o) : Compared (cs ++ os) (w.closeCompared o) := by
  unfold Waiting.closeCompared
  cases hw : w.compared with
  | none =>
    rw [hw] at h
    cases h
    exact .one ho
  | some left =>
    rw [hw] at h
    cases h with
    | some hl c =>
      rw [List.append_assoc]
      exact .compare hl c ho

theorem BothRead.close {bs : List Lexeme} (h : BothRead w.both bs)
    (ho : Compared os (w.closeCompared o)) : Both (bs ++ os) (w.closeBoth o) := by
  unfold Waiting.closeBoth
  cases hw : w.both with
  | none =>
    rw [hw] at h
    cases h
    exact .one ho
  | some left =>
    rw [hw] at h
    cases h with
    | some hl =>
      rw [List.append_assoc]
      exact .and hl ho

theorem EitherRead.close {es : List Lexeme} (h : EitherRead w.either es)
    (ho : Both os (w.closeBoth o)) : Either (es ++ os) (w.closeEither o) := by
  unfold Waiting.closeEither
  cases hw : w.either with
  | none =>
    rw [hw] at h
    cases h
    exact .one ho
  | some left =>
    rw [hw] at h
    cases h with
    | some hl =>
      rw [List.append_assoc]
      exact .or hl ho

/-- An operand ends the whole row that waits for it. -/
theorem WaitingRead.close {ws : List Lexeme} (h : WaitingRead w ws) (ho : Operand os o) :
    Either (ws ++ os) (w.closeEither o) := by
  obtain ⟨he, hb, hc⟩ := h
  rw [List.append_assoc, List.append_assoc]
  exact he.close (hb.close (hc.close ho))

theorem argumentList_ne_nil {ls : List Lexeme} {es : List Expr} (h : ArgumentList ls es) :
    es ≠ [] := by
  cases h <;> simp

theorem BeforeRead.close {before : List Expr} {bs ls : List Lexeme} {e : Expr}
    (h : BeforeRead before bs) (he : Expression ls e) :
    ArgumentList (bs ++ ls) (before ++ [e]) := by
  cases h with
  | nil => exact .one he
  | comma h =>
    rw [List.append_assoc]
    exact .more h he

/-- An expression ends the lambdas whose body it is. -/
theorem FramesRead.close {frames : List Frame} {fs ls : List Lexeme} {e : Expr}
    (h : FramesRead frames fs) (he : Expression ls e) :
    ∃ fs' ls', fs ++ ls = fs' ++ ls' ∧ FramesRead (closeLambdas e frames).2 fs' ∧
      Expression ls' (closeLambdas e frames).1 := by
  induction h generalizing ls e with
  | nil => exact ⟨[], ls, rfl, .nil, he⟩
  | @body frames fs ps x h hp ih =>
    obtain ⟨fs', ls', same, hfs, he'⟩ := ih (.lambda hp he)
    refine ⟨fs', ls', ?_, hfs, he'⟩
    rw [← same]
    simp
  | argument h hw ht method hb _ => exact ⟨_, ls, rfl, .argument h hw ht method hb, he⟩

end Close

/-! ## One lexeme -/

section Step

variable {w : Waiting} {frames : List Frame} {fs ws os : List Lexeme} {o : Expr} {l : Lexeme}
  {stage : Stage} {after : Reader}

theorem hasRead_closeExpression (hf : FramesRead frames fs) (hw : WaitingRead w ws)
    (ho : Operand os o) (h : Reader.closeExpression ⟨stage, w, frames⟩ o l = some after) :
    HasRead after (fs ++ ws ++ os ++ [l]) := by
  obtain ⟨fs', ls', same, hf, he⟩ := hf.close (.either (hw.close ho))
  rw [List.append_assoc fs, same]
  unfold Reader.closeExpression at h
  split at h
  · rename_i whole target method before outer frames closed
    cases h
    rw [closed] at hf he
    cases hf with
    | @argument _ gs vs ts bs _ _ _ hf hv ht _ hb =>
      have next := hasRead_fresh (by simp) (.argument hf hv ht method (.comma (hb.close he)))
        .expression
      simpa using next
  · rename_i whole target method before outer frames closed
    cases h
    rw [closed] at hf he
    cases hf with
    | @argument _ gs vs ts bs _ _ _ hf hv ht _ hb =>
      have next := hasRead_within rfl hf hv (.afterOperand (.call ht method (.some (hb.close he))))
      simpa using next
  · cases h

/-- After an operand: it goes on, an operator waits for another one, or it ends. -/
theorem hasRead_afterOperand (hf : FramesRead frames fs) (hw : WaitingRead w ws)
    (ho : Operand os o) (h : Reader.afterOperand ⟨stage, w, frames⟩ o l = some after) :
    HasRead after (fs ++ ws ++ os ++ [l]) := by
  cases l with
  | dot =>
    cases h
    rw [List.append_assoc]
    exact hasRead_within rfl hf hw (.fieldName ho)
  | comparison c =>
    simp only [Reader.afterOperand] at h
    split at h
    · cases h
    · rename_i free
      cases h
      obtain ⟨he, hb, hc⟩ := hw
      have hnone : w.compared = none := by simpa using free
      rw [hnone] at hc
      cases hc
      have waits : WaitingRead { w with compared := some (o, c) } _ :=
        .intro he hb (.some ho c)
      have next := hasRead_within rfl hf waits .operand
      simpa using next
  | connective c =>
    obtain ⟨he, hb, hc⟩ := hw
    cases c with
    | and =>
      cases h
      have waits : WaitingRead ⟨w.either, some (w.closeBoth o), none⟩ _ :=
        .intro he (.some (hb.close (hc.close ho))) .none
      have next := hasRead_within rfl hf waits .operand
      simpa using next
    | or =>
      cases h
      have waits : WaitingRead ⟨some (w.closeEither o), none, none⟩ _ :=
        .intro (.some (he.close (hb.close (hc.close ho)))) .none .none
      have next := hasRead_within rfl hf waits .operand
      simpa using next
  | _ => exact hasRead_closeExpression hf hw ho h

/-- The first lexeme of an operand gives an operand. -/
theorem operand_primary {e : Expr} (h : primary? l = some e) : Operand [l] e := by
  cases l with
  | name s =>
    cases h
    exact .name s
  | text s =>
    cases h
    exact .text s
  | number n =>
    cases h
    exact .number n
  | _ => cases h

theorem hasRead_startExpression (hf : FramesRead frames fs)
    (h : Reader.startExpression ⟨stage, .nothing, frames⟩ l = some after) :
    HasRead after (fs ++ [l]) := by
  unfold Reader.startExpression at h
  split at h
  · cases h
    exact hasRead_fresh (by simp) hf .parameter
  · rename_i s
    cases h
    exact hasRead_fresh (by simp) hf (.afterName s)
  · obtain ⟨e, he, h⟩ := Option.map_eq_some_iff.mp h
    cases h
    exact hasRead_fresh (by simp) hf (.afterOperand (operand_primary he))

theorem hasRead_openBody {ps : List Lexeme} {x : String} (hf : FramesRead frames fs)
    (hp : Parameter ps x) :
    HasRead (Reader.openBody ⟨stage, w, frames⟩ x) (fs ++ ps ++ [.arrow]) := by
  rw [← List.append_nil (fs ++ ps ++ [Lexeme.arrow])]
  exact hasRead_fresh (by simp) (.body hf hp) .expression

end Step

/-- One more lexeme that fits keeps what was read. -/
theorem HasRead.read? {r after : Reader} {ls : List Lexeme} {l : Lexeme} (h : HasRead r ls)
    (hr : r.read? l = some after) : HasRead after (ls ++ [l]) := by
  obtain ⟨stage, w, frames⟩ := r
  obtain ⟨fresh, first, fs, ws, ss, rfl, hf, hw, hs⟩ := h
  dsimp only at fresh first hf hw hs
  -- At the start of an expression no operator waits, so nothing stands for one.
  have empty : stage.isFresh = true → ws = [] := by
    intro h
    rw [fresh h] at hw
    exact hw.nothing_eq
  cases hs with
  | expression =>
    obtain rfl : w = .nothing := fresh rfl
    obtain rfl := empty rfl
    rw [List.append_nil, List.append_nil]
    exact hasRead_startExpression hf hr
  | operand =>
    obtain ⟨e, he, hr⟩ := Option.map_eq_some_iff.mp hr
    cases hr
    rw [List.append_nil]
    exact hasRead_within rfl hf hw (.afterOperand (operand_primary he))
  | firstArgument =>
    obtain rfl : w = .nothing := fresh rfl
    obtain rfl := empty rfl
    rw [List.append_nil, List.append_nil]
    by_cases hl : l = .closeParen
    · subst hl
      obtain ⟨target, method, outer, frames, rfl⟩ := first rfl
      cases hr
      cases hf with
      | @argument _ gs vs ts bs _ _ _ hf hv ht _ hb =>
        cases hb with
        | nil =>
          have next := hasRead_within rfl hf hv (.afterOperand (.call ht method .none))
          simpa using next
        | comma h => exact absurd rfl (argumentList_ne_nil h)
    · have started : Reader.startExpression ⟨.firstArgument, .nothing, frames⟩ l = some after := by
        cases l with
        | closeParen => exact absurd rfl hl
        | _ => exact hr
      exact hasRead_startExpression hf started
  | parameter =>
    cases l with
    | name x =>
      cases hr
      obtain rfl := fresh rfl
      obtain rfl := empty rfl
      have next := hasRead_fresh (by simp) hf (.parameterClose x)
      simpa using next
    | _ => cases hr
  | parameterClose x =>
    cases l with
    | closeParen =>
      cases hr
      obtain rfl := fresh rfl
      obtain rfl := empty rfl
      have next := hasRead_fresh (by simp) hf (.parameterArrow x)
      simpa using next
    | _ => cases hr
  | parameterArrow x =>
    cases l with
    | arrow =>
      cases hr
      obtain rfl := empty rfl
      rw [List.append_nil]
      exact hasRead_openBody hf (.bracketed x)
    | _ => cases hr
  | fieldName ht =>
    cases l with
    | name field =>
      cases hr
      have next := hasRead_within rfl hf hw (.afterField ht field)
      simpa using next
    | _ => cases hr
  | @afterField ts target ht field =>
    by_cases hl : l = .openParen
    · subst hl
      cases hr
      refine ⟨fun _ => rfl, fun _ => ⟨_, _, _, _, rfl⟩, _, [], [], ?_,
        .argument hf hw ht field .nil, waitingRead_nothing, .firstArgument⟩
      simp
    · have goes : Reader.afterOperand ⟨.afterField target field, w, frames⟩
          (.member target field) l = some after := by
        cases l with
        | openParen => exact absurd rfl hl
        | _ => exact hr
      exact hasRead_afterOperand hf hw (.member ht field) goes
  | @afterOperand os o ho =>
    have goes : Reader.afterOperand ⟨.afterOperand o none, w, frames⟩ o l = some after := by
      cases l <;> exact hr
    exact hasRead_afterOperand hf hw ho goes
  | afterName x =>
    by_cases hl : l = .arrow
    · subst hl
      cases hr
      obtain rfl := empty rfl
      rw [List.append_nil]
      exact hasRead_openBody hf (.bare x)
    · have goes : Reader.afterOperand ⟨.afterOperand (.name x) (some x), w, frames⟩
          (.name x) l = some after := by
        cases l with
        | arrow => exact absurd rfl hl
        | _ => exact hr
      exact hasRead_afterOperand hf hw (.name x) goes

/-! ## Whole queries -/

theorem hasRead_start : HasRead .start [] :=
  hasRead_fresh (by simp) .nil .expression

/-- A reading keeps what was read before it. -/
theorem HasRead.reads {r after : Reader} {ls rs : List Lexeme} (h : HasRead r ls)
    (hr : Reads r rs after) : HasRead after (ls ++ rs) := by
  induction rs generalizing r ls with
  | nil =>
    cases hr
    rw [List.append_nil]
    exact h
  | cons l rest ih =>
    rw [Reads, List.foldlM_cons] at hr
    obtain ⟨middle, hl, hr⟩ := Option.bind_eq_some_iff.mp hr
    rw [List.append_cons]
    exact ih (h.read? hl) hr

/-- A reader that is at the end of a query has read that query. -/
theorem HasRead.result {r : Reader} {ls : List Lexeme} {e : Expr} (h : HasRead r ls)
    (hr : r.result? = some e) : Expression ls e := by
  obtain ⟨stage, w, frames⟩ := r
  obtain ⟨-, -, fs, ws, ss, rfl, hf, hw, hs⟩ := h
  dsimp only at hf hw hs
  obtain ⟨o, holds⟩ := holds_of_result? hr
  rw [result?_of_holds holds w frames] at hr
  obtain ⟨fs', ls', same, hf, he⟩ := hf.close (.either (hw.close (hs.held holds)))
  split at hr
  · rename_i whole closed
    cases hr
    rw [closed] at hf he
    cases hf
    rw [List.append_assoc, same]
    exact he
  · cases hr

/-- The tokens of a query are read one after the other, and errors aside their places do
not matter. -/
theorem read_eq_ok {r after : Reader} {ts : List Token} :
    ts.foldlM Reader.read r = .ok after ↔ Reads r (ts.map (·.lexeme)) after := by
  induction ts generalizing r with
  | nil => simp [Reads, pure, Except.pure]
  | cons t rest ih =>
    rw [Reads, List.map_cons, List.foldlM_cons, List.foldlM_cons, Reader.read]
    cases r.read? t.lexeme with
    | none => simp [bind, Except.bind]
    | some next => exact ih

theorem ofTokens_eq_ok {ts : Tokens} {e : Expr} :
    Expr.ofTokens ts = .ok e ↔
      ∃ after, Reads .start (ts.list.map (·.lexeme)) after ∧ after.result? = some e := by
  rw [Expr.ofTokens, bind_eq_ok]
  constructor
  · rintro ⟨after, hr, h⟩
    split at h
    · rename_i e' he
      cases h
      exact ⟨after, read_eq_ok.mp hr, he⟩
    · cases h
  · rintro ⟨after, hr, he⟩
    refine ⟨after, read_eq_ok.mpr hr, ?_⟩
    rw [he]

/-- A list of tokens is read as a query exactly when the grammar derives that query from
it, and no list derives two. -/
theorem a_query_is_read_as_the_grammar_derives_it (ts : Tokens) :
    (∀ e, Expr.ofTokens ts = .ok e ↔ Expression (ts.list.map (·.lexeme)) e) ∧
      ∀ e e', Expression (ts.list.map (·.lexeme)) e → Expression (ts.list.map (·.lexeme)) e' →
        e = e' := by
  have follows : ∀ e, Expression (ts.list.map (·.lexeme)) e → Expr.ofTokens ts = .ok e :=
    fun e h => ofTokens_eq_ok.mpr h.result
  refine ⟨?_, ?_⟩
  · intro e
    constructor
    · intro h
      obtain ⟨after, hr, he⟩ := ofTokens_eq_ok.mp h
      exact (hasRead_start.reads hr).result he
    · exact follows e
  · intro e e' he he'
    have same := (follows e he).symm.trans (follows e' he')
    exact Except.ok.inj same

end CommitQuery.Query
