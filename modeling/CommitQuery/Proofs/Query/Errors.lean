-- The error of a text that is no query stands at the first token that cannot be right:
-- some query goes on from the tokens before it, and none from those up to it. Whatever
-- the reader holds can be completed, and what it refuses no other reading accepts.
import CommitQuery.Proofs.Query.RoundTrip

namespace CommitQuery.Query

open CommitQuery.Text

/-! ## Accepted lexemes -/

/-- Lexemes that a query is made of: some text is cut into them and is read as a query. -/
def Accepted (ls : List Lexeme) : Prop :=
  ∃ query ts e, tokens query = .ok ts ∧ ts.list.map (·.lexeme) = ls ∧ Expr.parse query = .ok e

/-- Lexemes that a query starts with. -/
def Begins (ls : List Lexeme) : Prop := ∃ rest, Accepted (ls ++ rest)

/-- Lexemes that can be spelled can be spelled one after the other. -/
theorem Spellable.exists_spells {ls : List Lexeme} (h : Spellable ls) : ∃ s, Spells s ls := by
  induction ls with
  | nil => exact ⟨[], spells_nil⟩
  | cons l rest ih =>
    obtain ⟨⟨word, hl⟩, hrest⟩ := spellable_cons.mp h
    obtain ⟨s, hs⟩ := ih hrest
    exact ⟨word ++ ' ' :: s, hs.space.lexeme hl (l.endsBefore_blank (by decide) s)⟩

/-- What is accepted is decided by the reader alone, over lexemes that can be spelled. -/
theorem accepted_iff {ls : List Lexeme} :
    Accepted ls ↔ Spellable ls ∧ ∃ after e, Reads .start ls after ∧ after.result? = some e := by
  constructor
  · rintro ⟨query, ts, e, hts, rfl, h⟩
    obtain ⟨ts', hts', he⟩ := parse_eq_ok.mp h
    cases hts.symm.trans hts'
    obtain ⟨after, reads, result⟩ := ofTokens_eq_ok.mp he
    exact ⟨(cuts_of_tokensFrom 0 query.toList hts).spellable, after, e, reads, result⟩
  · rintro ⟨spellable, after, e, reads, result⟩
    obtain ⟨s, spells⟩ := spellable.exists_spells
    obtain ⟨ts, hts, rfl⟩ := spells.tokens
    have he : Expr.ofTokens ts = .ok e := ofTokens_eq_ok.mpr ⟨after, reads, result⟩
    exact ⟨String.ofList s, ts, e, hts, rfl, parse_eq_ok.mpr ⟨ts, hts, he⟩⟩

theorem Reads.append_iff {r after : Reader} {ls rs : List Lexeme} :
    Reads r (ls ++ rs) after ↔ ∃ middle, Reads r ls middle ∧ Reads middle rs after :=
  foldlM_append_eq_some

theorem Reads.unique {r after after' : Reader} {ls : List Lexeme} (h : Reads r ls after)
    (h' : Reads r ls after') : after = after' :=
  Option.some.inj (h.symm.trans h')

/-! ## What the reader holds can be completed -/

/-- After an expression either all is closed, or an argument list waits for it, with fewer
frames around. -/
theorem closeLambdas_cases (e : Expr) (frames : List Frame) :
    (∃ whole, closeLambdas e frames = (whole, [])) ∨
      ∃ whole target method before outer rest, closeLambdas e frames =
        (whole, .argument target method before outer :: rest) ∧ rest.length < frames.length := by
  induction frames generalizing e with
  | nil => exact .inl ⟨e, rfl⟩
  | cons frame frames ih =>
    cases frame with
    | argument target method before outer =>
      exact .inr ⟨e, target, method, before, outer, frames, rfl, by simp⟩
    | body parameter =>
      rcases ih (.lambda parameter e) with closed | ⟨whole, t, m, b, o, rest, waits, fewer⟩
      · exact .inl closed
      · exact .inr ⟨whole, t, m, b, o, rest, waits, Nat.lt_succ_of_lt fewer⟩

/-- From an operand a query ends by closing what is open, by induction on the frames around:
a bracket closes the innermost call, which is an operand again. -/
theorem exists_closing {stage : Stage} {o : Expr} (h : stage.Holds o) (w : Waiting)
    (frames : List Frame) :
    ∃ n after e, Reads ⟨stage, w, frames⟩ (List.replicate n .closeParen) after ∧
      after.result? = some e := by
  rcases closeLambdas_cases (w.closeEither o) frames with
    ⟨whole, closed⟩ | ⟨whole, target, method, before, outer, rest, waits, fewer⟩
  · refine ⟨0, ⟨stage, w, frames⟩, whole, rfl, ?_⟩
    rw [result?_of_holds h, closed]
  · obtain ⟨n, after, e, reads, result⟩ :=
      exists_closing (.operand (.call target method (before ++ [whole])) none) outer rest
    refine ⟨n + 1, after, e, .cons ?_ reads, result⟩
    rw [read?_of_holds h w frames .closeParen (by simp) (by simp)]
    simp only [Reader.afterOperand, Reader.closeExpression, waits]
termination_by frames.length

theorem spelled_x : (Lexeme.name "x").Spelled ['x'] :=
  .name (by decide) (List.forall_mem_nil _)

theorem spellable_nil : Spellable [] := List.forall_mem_nil _

theorem spellable_x : Spellable [.name "x"] := spellable_cons.mpr ⟨⟨_, spelled_x⟩, spellable_nil⟩

/-- In every state of the reader some lexemes lead to an operand. -/
theorem exists_operand (r : Reader) : ∃ ls stage w frames o, Spellable ls ∧
    Reads r ls ⟨stage, w, frames⟩ ∧ stage.Holds o := by
  obtain ⟨stage, w, frames⟩ := r
  have signs : Spellable [.closeParen, .arrow, .name "x"] :=
    spellable_cons.mpr ⟨⟨_, .sign rfl⟩, spellable_cons.mpr ⟨⟨_, .sign rfl⟩, spellable_x⟩⟩
  cases stage with
  | expression | operand | firstArgument =>
    exact ⟨[.name "x"], _, w, frames, .name "x", spellable_x, rfl, .operand _ _⟩
  | parameter =>
    exact ⟨[.name "x", .closeParen, .arrow, .name "x"], _, _, _, .name "x",
      spellable_cons.mpr ⟨⟨_, spelled_x⟩, signs⟩, rfl, .operand _ _⟩
  | parameterClose x =>
    exact ⟨[.closeParen, .arrow, .name "x"], _, _, _, .name "x", signs, rfl, .operand _ _⟩
  | parameterArrow x =>
    exact ⟨[.arrow, .name "x"], _, _, _, .name "x", (spellable_cons.mp signs).2, rfl,
      .operand _ _⟩
  | fieldName target =>
    exact ⟨[.name "x"], _, w, frames, _, spellable_x, rfl, .field target "x"⟩
  | afterField target field =>
    exact ⟨[], _, w, frames, _, spellable_nil, rfl, .field target field⟩
  | afterOperand operand parameter? =>
    exact ⟨[], _, w, frames, _, spellable_nil, rfl, .operand operand parameter?⟩

/-- Every beginning that the reader follows is the beginning of a query. -/
theorem begins_of_reads {ls : List Lexeme} {r : Reader} (spellable : Spellable ls)
    (h : Reads .start ls r) : Begins ls := by
  obtain ⟨more, stage, w, frames, o, written, reads, holds⟩ := exists_operand r
  obtain ⟨n, after, e, closes, result⟩ := exists_closing holds w frames
  have closing : Spellable (List.replicate n .closeParen) := fun l hl => by
    rw [List.eq_of_mem_replicate hl]
    exact ⟨_, .sign rfl⟩
  refine ⟨more ++ List.replicate n .closeParen, accepted_iff.mpr ⟨?_, after, e, ?_, result⟩⟩
  · exact spellable_append.mpr ⟨spellable, spellable_append.mpr ⟨written, closing⟩⟩
  · exact h.append (reads.append closes)

/-- No query starts with what the reader refuses. -/
theorem not_begins_of_refused {ls : List Lexeme} {l : Lexeme} {r : Reader} (h : Reads .start ls r)
    (refused : r.read? l = none) : ¬ Begins (ls ++ [l]) := by
  rintro ⟨rest, accepted⟩
  obtain ⟨-, after, e, reads, -⟩ := accepted_iff.mp accepted
  obtain ⟨next, reads, -⟩ := Reads.append_iff.mp reads
  obtain ⟨middle, same, reads⟩ := Reads.append_iff.mp reads
  obtain rfl := h.unique same
  rw [Reads, List.foldlM_cons, refused] at reads
  cases reads

/-! ## The law -/

/-- Reading fails at the first token that the reader refuses. -/
theorem read_eq_error {r : Reader} {ts : List Token} {bad : Malformed}
    (h : ts.foldlM Reader.read r = .error bad) :
    ∃ before t rest middle, ts = before ++ t :: rest ∧
      Reads r (before.map (·.lexeme)) middle ∧ middle.read? t.lexeme = none ∧
      bad = ⟨t.position, middle.expected, t.lexeme.shown⟩ := by
  induction ts generalizing r with
  | nil => cases h
  | cons t rest ih =>
    rw [List.foldlM_cons] at h
    cases hr : r.read? t.lexeme with
    | none =>
      rw [Reader.read, hr] at h
      cases h
      exact ⟨[], t, rest, r, rfl, rfl, hr, rfl⟩
    | some next =>
      rw [Reader.read, hr] at h
      obtain ⟨before, t', rest', middle, rfl, reads, refused, same⟩ := ih h
      exact ⟨t :: before, t', rest', middle, rfl, .cons hr reads, refused, same⟩

/-- The error of a text whose tokens are no query is the first of them that no query can
go on with, or the end if the tokens are only the beginning of one. -/
theorem a_syntax_error_is_the_first_token_that_cannot_be_right (query : String) (ts : Tokens)
    (bad : Malformed) (hts : tokens query = .ok ts) (h : Expr.parse query = .error bad) :
    ∃ before rest, ts.list = before ++ rest ∧ Begins (before.map (·.lexeme)) ∧
      match rest with
      | t :: _ => ¬ Begins ((before ++ [t]).map (·.lexeme)) ∧ bad.position = t.position ∧
          bad.found = t.lexeme.shown
      | [] => ¬ Accepted (before.map (·.lexeme)) ∧ bad.position = ts.stop ∧
          bad.found = endOfInput := by
  have spellable := (cuts_of_tokensFrom 0 query.toList hts).spellable
  rw [Expr.parse, hts] at h
  have reading : Expr.ofTokens ts = .error bad := h
  rcases bind_eq_error.mp reading with failed | ⟨r, hr, ended⟩
  · obtain ⟨before, t, rest, r, split, reads, refused, rfl⟩ := read_eq_error failed
    rw [split, List.map_append] at spellable
    refine ⟨before, t :: rest, split, begins_of_reads (spellable_append.mp spellable).1 reads, ?_,
      rfl, rfl⟩
    rw [List.map_append]
    exact not_begins_of_refused reads refused
  · have reads := read_eq_ok.mp hr
    refine ⟨ts.list, [], (List.append_nil _).symm, begins_of_reads spellable reads, ?_⟩
    cases hresult : r.result? with
    | some e =>
      rw [hresult] at ended
      cases ended
    | none =>
      rw [hresult] at ended
      cases ended
      refine ⟨fun accepted => ?_, rfl, rfl⟩
      obtain ⟨-, after, e, reads', result⟩ := accepted_iff.mp accepted
      rw [← reads.unique reads', hresult] at result
      cases result

/-- The second comparison of a row is the error: what stands before it begins a query, as
it ends one. -/
theorem a_second_comparison_is_the_error :
    ∃ ts bad, tokens "Commits.Where(c => c.Sha == 'a' == 'b')" = .ok ts ∧
      Expr.parse "Commits.Where(c => c.Sha == 'a' == 'b')" = .error bad ∧ bad.position = 32 ∧
      ∃ before rest, ts.list = before ++ rest ∧ Begins (before.map (·.lexeme)) ∧
        match rest with
        | t :: _ => ¬ Begins ((before ++ [t]).map (·.lexeme)) ∧ bad.position = t.position ∧
            bad.found = t.lexeme.shown
        | [] => ¬ Accepted (before.map (·.lexeme)) ∧ bad.position = ts.stop ∧
            bad.found = endOfInput := by
  have h : ∃ ts bad, tokens "Commits.Where(c => c.Sha == 'a' == 'b')" = .ok ts ∧
      Expr.parse "Commits.Where(c => c.Sha == 'a' == 'b')" = .error bad ∧ bad.position = 32 :=
    ⟨_, _, by cbv, by cbv, by cbv⟩
  obtain ⟨ts, bad, hts, hbad, place⟩ := h
  exact ⟨ts, bad, hts, hbad, place,
    a_syntax_error_is_the_first_token_that_cannot_be_right _ ts bad hts hbad⟩

end CommitQuery.Query
