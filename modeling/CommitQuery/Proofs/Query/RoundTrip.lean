-- A query that was read is read again from its own text, as the same tree. The text has
-- no brackets around operators and picks the quotes of strings, so this rests on what
-- trees the grammar can give and on what strings a text can hold.
import Mathlib
import CommitQuery.Proofs.Query.Lexing
import CommitQuery.Proofs.Query.Reading

namespace CommitQuery.Query

open CommitQuery.Text Grammar

/-! ## The lexemes of a tree -/

def Operator.lexeme : Operator → Lexeme
  | .compare c => .comparison c
  | .connect c => .connective c

namespace Expr

mutual

/-- The lexemes that a tree is written with. The parameter of a lambda has no brackets. -/
def lexemes : Expr → List Lexeme
  | .name s => [.name s]
  | .text s => [.text s]
  | .number n => [.number n]
  | .member target field => target.lexemes ++ [.dot, .name field]
  | .call target method arguments =>
    target.lexemes ++ [.dot, .name method, .openParen] ++ lexemesOf arguments ++ [.closeParen]
  | .lambda parameter body => [.name parameter] ++ .arrow :: body.lexemes
  | .binary left op right => left.lexemes ++ op.lexeme :: right.lexemes

/-- The lexemes of arguments, with a comma between each two. -/
def lexemesOf : List Expr → List Lexeme
  | [] => []
  | [e] => e.lexemes
  | e :: more => e.lexemes ++ .comma :: lexemesOf more

end

theorem lexemesOf_append {es : List Expr} (h : es ≠ []) (e : Expr) :
    lexemesOf (es ++ [e]) = lexemesOf es ++ .comma :: e.lexemes := by
  induction es with
  | nil => exact absurd rfl h
  | cons a more ih =>
    cases more with
    | nil => rfl
    | cons b rest =>
      show a.lexemes ++ .comma :: lexemesOf (b :: rest ++ [e]) =
        (a.lexemes ++ .comma :: lexemesOf (b :: rest)) ++ .comma :: e.lexemes
      rw [ih (by simp), List.append_assoc]
      rfl

end Expr

open CommitQuery.Query.Expr (lexemesOf lexemesOf_append)

namespace Grammar

theorem Parameter.sublist {ps : List Lexeme} {x : String} (h : Parameter ps x) :
    [Lexeme.name x].Sublist ps := by
  cases h <;> simp

mutual

/-- A tree of the grammar is derived from its own lexemes as well, and they are lexemes
of the list that it was first derived from. -/
theorem Expression.own {ls : List Lexeme} {e : Expr} :
    Expression ls e → Expression e.lexemes e ∧ e.lexemes.Sublist ls
  | .lambda hp hb => ⟨.lambda (.bare _) hb.own.1, hp.sublist.append (hb.own.2.cons_cons .arrow)⟩
  | .either h => ⟨.either h.own.1, h.own.2⟩

theorem Either.own {ls : List Lexeme} {e : Expr} :
    Either ls e → Either e.lexemes e ∧ e.lexemes.Sublist ls
  | .one h => ⟨.one h.own.1, h.own.2⟩
  | .or hl hr => ⟨.or hl.own.1 hr.own.1, hl.own.2.append (hr.own.2.cons_cons _)⟩

theorem Both.own {ls : List Lexeme} {e : Expr} :
    Both ls e → Both e.lexemes e ∧ e.lexemes.Sublist ls
  | .one h => ⟨.one h.own.1, h.own.2⟩
  | .and hl hr => ⟨.and hl.own.1 hr.own.1, hl.own.2.append (hr.own.2.cons_cons _)⟩

theorem Compared.own {ls : List Lexeme} {e : Expr} :
    Compared ls e → Compared e.lexemes e ∧ e.lexemes.Sublist ls
  | .one h => ⟨.one h.own.1, h.own.2⟩
  | .compare hl c hr => ⟨.compare hl.own.1 c hr.own.1, hl.own.2.append (hr.own.2.cons_cons _)⟩

theorem Operand.own {ls : List Lexeme} {e : Expr} :
    Operand ls e → Operand e.lexemes e ∧ e.lexemes.Sublist ls
  | .name s => ⟨.name s, .refl _⟩
  | .text s => ⟨.text s, .refl _⟩
  | .number n => ⟨.number n, .refl _⟩
  | .member ht field => ⟨.member ht.own.1 field, ht.own.2.append (.refl _)⟩
  | .call ht method ha =>
    ⟨.call ht.own.1 method ha.own.1, ((ht.own.2.append (.refl _)).append ha.own.2).append (.refl _)⟩

theorem Arguments.own {ls : List Lexeme} {es : List Expr} :
    Arguments ls es → Arguments (lexemesOf es) es ∧ (lexemesOf es).Sublist ls
  | .none => ⟨.none, .refl _⟩
  | .some h => ⟨.some h.own.1, h.own.2⟩

theorem ArgumentList.own {ls : List Lexeme} {es : List Expr} :
    ArgumentList ls es → ArgumentList (lexemesOf es) es ∧ (lexemesOf es).Sublist ls
  | .one h => ⟨.one h.own.1, h.own.2⟩
  | .more h he => by
    rw [lexemesOf_append (argumentList_ne_nil h)]
    exact ⟨.more h.own.1 he.own.1, h.own.2.append (he.own.2.cons_cons .comma)⟩

end

end Grammar

/-! ## Texts that spell lexemes -/

/-- A text that is cut into some lexemes, wherever it starts. -/
def Spells (s : List Char) (ls : List Lexeme) : Prop :=
  ∀ position, ∃ ts stop, Cuts position s ts stop ∧ ts.map (·.lexeme) = ls

theorem spells_nil : Spells [] [] := fun _ => ⟨[], _, .blank (by simp), rfl⟩

theorem Spells.lexeme {l : Lexeme} {word rest : List Char} {ls : List Lexeme}
    (h : Spells rest ls) (hl : l.Spelled word) (ends : l.endsBefore rest = true) :
    Spells (word ++ rest) (l :: ls) := by
  intro position
  obtain ⟨ts, stop, cuts, rfl⟩ := h (position + word.length)
  have first : Cuts position ([] ++ word ++ rest) (⟨position, l⟩ :: ts) stop :=
    .token (by simp) hl ends cuts
  exact ⟨⟨position, l⟩ :: ts, stop, first, rfl⟩

theorem Cuts.blank_cons {c : Char} (hc : isBlank c = true) {position stop : Nat} {s : List Char}
    {ts : List Token} (h : Cuts (position + 1) s ts stop) : Cuts position (c :: s) ts stop := by
  cases h with
  | blank hs =>
    have longer : ∀ d ∈ c :: s, isBlank d = true := List.forall_mem_cons.mpr ⟨hc, hs⟩
    have cuts : Cuts position (c :: s) [] (position + (c :: s).length) := .blank longer
    rw [List.length_cons, ← Nat.add_assoc, Nat.add_right_comm] at cuts
    exact cuts
  | @token _ _ blanks word rest l ts hb hl hstop h =>
    have longer : ∀ d ∈ c :: blanks, isBlank d = true := List.forall_mem_cons.mpr ⟨hc, hb⟩
    have place : position + 1 + blanks.length = position + (c :: blanks).length := by
      rw [List.length_cons]
      omega
    rw [place] at h ⊢
    exact .token longer hl hstop h

theorem Spells.space {s : List Char} {ls : List Lexeme} (h : Spells s ls) :
    Spells (' ' :: s) ls := by
  intro position
  obtain ⟨ts, stop, cuts, same⟩ := h (position + 1)
  exact ⟨ts, stop, cuts.blank_cons (by decide), same⟩

/-- A text that no name and no number before it goes on with. -/
def Apart (s : List Char) : Prop := ∀ c ∈ s.head?, continuesName c = false

theorem Apart.name {s : List Char} (h : Apart s) (x : String) :
    (Lexeme.name x).endsBefore s = true := endsBefore_name.mpr h

theorem Apart.number {s : List Char} (h : Apart s) (n : Int32) :
    (Lexeme.number n).endsBefore s = true := by
  refine endsBefore_number.mpr fun c hc => Bool.eq_false_iff.mpr fun digit => ?_
  have other := h c hc
  rw [continuesName_of_isAsciiDigit digit] at other
  cases other

theorem apart_cons {c : Char} (h : continuesName c = false) (s : List Char) : Apart (c :: s) := by
  intro d hd
  cases hd
  exact h

/-! ## How a tree spells a lexeme -/

theorem spelled_name {x : String} {w : List Char} (h : (Lexeme.name x).Spelled w) :
    (Lexeme.name x).Spelled x.toList := by
  cases h with
  | @name c rest hc hrest =>
    rw [String.toList_ofList]
    exact .name hc hrest
  | sign h => cases h

/-- Of the two kinds of quotes a string that can be written does not hold both. -/
theorem spelled_text {x : String} {w : List Char} (h : (Lexeme.text x).Spelled w) :
    (Lexeme.text x).Spelled (Expr.quoteFor x :: x.toList ++ [Expr.quoteFor x]) := by
  cases h with
  | @text q content hq hc =>
    simp only [Expr.quoteFor, String.toList_ofList, List.contains_iff_mem]
    split
    · rename_i double
      refine .text (by decide) fun single => ?_
      simp only [isQuote, Bool.or_eq_true, decide_eq_true_eq] at hq
      rcases hq with rfl | rfl
      · exact hc double
      · exact hc single
    · rename_i double
      exact .text (by decide) double
  | sign h => cases h

theorem toList_toString (n : Nat) : (toString (n : Int)).toList = Nat.toDigits 10 n := by
  show (toString n).toList = _
  simp

/-- A number is written without zeros in front, however it was spelled. -/
theorem spelled_number {n : Int32} {w : List Char} (h : (Lexeme.number n).Spelled w) :
    (Lexeme.number n).Spelled (toString n.toInt).toList := by
  cases h with
  | @number c rest hd hle =>
    generalize digitsValue (c :: rest) = v at hle ⊢
    have small : v < 2 ^ 31 := by
      unfold largestNumber at hle
      omega
    rw [Int32.toInt_ofNat_of_lt small, toList_toString]
    have digits : ∀ d ∈ Nat.toDigits 10 v, isAsciiDigit d = true :=
      fun d => isAsciiDigit_of_mem_toDigits
    have value := digitsValue_toDigits v
    have some := Nat.length_toDigits_pos (b := 10) (n := v)
    cases hs : Nat.toDigits 10 v with
    | nil => simp [hs] at some
    | cons d more =>
      rw [hs] at digits value
      rw [← value] at hle ⊢
      exact .number digits hle
  | sign h => cases h

theorem Operator.spelled (op : Operator) : op.lexeme.Spelled op.symbol.toList := by
  cases op <;> exact .sign rfl

theorem Spells.sign {c : Char} {l : Lexeme} {rest : List Char} {ls : List Lexeme}
    (h : Spells rest ls) (hl : l.sign? = some [c]) (ends : l.endsBefore rest = true) :
    Spells (c :: rest) (l :: ls) :=
  h.lexeme (.sign hl) ends

/-- Lexemes that some text can spell. -/
def Spellable (ls : List Lexeme) : Prop := ∀ l ∈ ls, ∃ w, l.Spelled w

theorem spellable_append {ls rs : List Lexeme} :
    Spellable (ls ++ rs) ↔ Spellable ls ∧ Spellable rs := List.forall_mem_append

theorem spellable_cons {l : Lexeme} {ls : List Lexeme} :
    Spellable (l :: ls) ↔ (∃ w, l.Spelled w) ∧ Spellable ls := List.forall_mem_cons

mutual

/-- The text of a tree spells the lexemes of the tree, in front of any text apart. -/
theorem spells_spelling (e : Expr) {rest : List Char} {ls : List Lexeme}
    (h : Spellable e.lexemes) (hrest : Spells rest ls) (apart : Apart rest) :
    Spells (e.spelling ++ rest) (e.lexemes ++ ls) := by
  cases e with
  | name s =>
    obtain ⟨w, hw⟩ := h _ (List.mem_singleton.mpr rfl)
    exact hrest.lexeme (spelled_name hw) (apart.name s)
  | text s =>
    obtain ⟨w, hw⟩ := h _ (List.mem_singleton.mpr rfl)
    exact hrest.lexeme (spelled_text hw) rfl
  | number n =>
    obtain ⟨w, hw⟩ := h _ (List.mem_singleton.mpr rfl)
    exact hrest.lexeme (spelled_number hw) (apart.number n)
  | member target field =>
    obtain ⟨target_ok, own⟩ := spellable_append.mp h
    obtain ⟨w, hw⟩ := own (.name field) (by simp)
    have after := (hrest.lexeme (spelled_name hw) (apart.name field)).sign (l := .dot) rfl rfl
    have whole := spells_spelling target target_ok after (apart_cons (by decide) _)
    simpa [Expr.spelling, Expr.lexemes] using whole
  | call target method arguments =>
    obtain ⟨before, -⟩ := spellable_append.mp h
    obtain ⟨before, arguments_ok⟩ := spellable_append.mp before
    obtain ⟨target_ok, own⟩ := spellable_append.mp before
    obtain ⟨w, hw⟩ := own (.name method) (by simp)
    have close := hrest.sign (l := .closeParen) rfl rfl
    have inside := spells_spellings arguments arguments_ok close (apart_cons (by decide) _)
    have bracket := inside.sign (l := .openParen) rfl rfl
    have name := bracket.lexeme (spelled_name hw) (Apart.name (apart_cons (by decide) _) method)
    have after := name.sign (l := .dot) rfl rfl
    have whole := spells_spelling target target_ok after (apart_cons (by decide) _)
    simpa [Expr.spelling, Expr.lexemes] using whole
  | lambda x body =>
    obtain ⟨own, body_ok⟩ := spellable_append.mp h
    obtain ⟨w, hw⟩ := own (.name x) (by simp)
    have inside := spells_spelling body (spellable_cons.mp body_ok).2 hrest apart
    have arrow := inside.space.lexeme (l := .arrow) (.sign (s := ['=', '>']) rfl) rfl
    have whole := arrow.space.lexeme (spelled_name hw) (Apart.name (apart_cons (by decide) _) x)
    simpa [Expr.spelling, Expr.lexemes] using whole
  | binary left op right =>
    obtain ⟨left_ok, after_ok⟩ := spellable_append.mp h
    have inside := spells_spelling right (spellable_cons.mp after_ok).2 hrest apart
    have after := (inside.space.lexeme op.spelled (op.lexeme.endsBefore_blank (by decide) _)).space
    have whole := spells_spelling left left_ok after (apart_cons (by decide) _)
    simpa [Expr.spelling, Expr.lexemes] using whole

/-- The same for arguments. -/
theorem spells_spellings (es : List Expr) {rest : List Char} {ls : List Lexeme}
    (h : Spellable (lexemesOf es)) (hrest : Spells rest ls) (apart : Apart rest) :
    Spells (Expr.spellings es ++ rest) (lexemesOf es ++ ls) := by
  cases es with
  | nil => exact hrest
  | cons e more =>
    cases more with
    | nil => exact spells_spelling e h hrest apart
    | cons e' more =>
      obtain ⟨first_ok, after_ok⟩ := spellable_append.mp h
      have others := spells_spellings (e' :: more) (spellable_cons.mp after_ok).2 hrest apart
      have after := others.space.sign (l := .comma) rfl rfl
      have whole := spells_spelling e first_ok after (apart_cons (by decide) _)
      have text : Expr.spellings (e :: e' :: more) =
        e.spelling ++ ", ".toList ++ Expr.spellings (e' :: more) := rfl
      have lexemes : lexemesOf (e :: e' :: more) =
        e.lexemes ++ .comma :: lexemesOf (e' :: more) := rfl
      rw [text, lexemes]
      simpa using whole

end

/-! ## The law -/

theorem Cuts.spellable {position stop : Nat} {s : List Char} {ts : List Token}
    (h : Cuts position s ts stop) : Spellable (ts.map (·.lexeme)) := by
  induction h with
  | blank => exact List.forall_mem_nil _
  | token _ hl _ _ ih => exact spellable_cons.mpr ⟨⟨_, hl⟩, ih⟩

theorem parse_eq_ok {query : String} {e : Expr} :
    Expr.parse query = .ok e ↔ ∃ ts, tokens query = .ok ts ∧ Expr.ofTokens ts = .ok e :=
  bind_eq_ok

theorem Spells.tokens {s : List Char} {ls : List Lexeme} (h : Spells s ls) :
    ∃ ts, tokens (String.ofList s) = .ok ts ∧ ts.list.map (·.lexeme) = ls := by
  obtain ⟨ts, stop, cuts, same⟩ := h 0
  refine ⟨⟨ts, stop⟩, ?_, same⟩
  rw [CommitQuery.Query.tokens, String.toList_ofList]
  exact tokensFrom_eq_ok.mpr cuts

/-- The text of a query that was read is read as the same query. -/
theorem a_query_is_read_again_from_its_text (query : String) (e : Expr)
    (h : Expr.parse query = .ok e) : Expr.parse e.toText = .ok e := by
  obtain ⟨ts, hts, he⟩ := parse_eq_ok.mp h
  obtain ⟨after, reads, result⟩ := ofTokens_eq_ok.mp he
  obtain ⟨derived, sub⟩ := ((hasRead_start.reads reads).result result).own
  have written : Spellable e.lexemes := fun l hl =>
    (cuts_of_tokensFrom 0 query.toList hts).spellable l (sub.subset hl)
  have spelled := spells_spelling e written spells_nil (by simp [Apart])
  rw [List.append_nil, List.append_nil] at spelled
  obtain ⟨ts', stop, cuts, same⟩ := spelled 0
  refine parse_eq_ok.mpr ⟨⟨ts', stop⟩, ?_, ofTokens_eq_ok.mpr ?_⟩
  · rw [tokens, Expr.toText, String.toList_ofList]
    exact tokensFrom_eq_ok.mpr cuts
  · rw [same]
    exact derived.result

/-- A lambda in brackets, a string that holds quotes, a number with zeros in front and
operators of every rank, with other blanks than the text of the tree has. -/
theorem a_nested_query_is_read_again_from_its_text :
    ∃ e, Expr.parse "Commits .Where((c)=>c.Message=='\"x\"'||c.Sha.Trim() == c.Sha && 007<c.N)" =
        .ok e ∧
      e.toText = "Commits.Where(c => c.Message == '\"x\"' || c.Sha.Trim() == c.Sha && 7 < c.N)" ∧
      Expr.parse e.toText = .ok e := by
  have h : ∃ e, Expr.parse
        "Commits .Where((c)=>c.Message=='\"x\"'||c.Sha.Trim() == c.Sha && 007<c.N)" = .ok e ∧
      e.toText = "Commits.Where(c => c.Message == '\"x\"' || c.Sha.Trim() == c.Sha && 7 < c.N)" :=
    ⟨_, by cbv, by cbv⟩
  obtain ⟨e, h, text⟩ := h
  exact ⟨e, h, text, a_query_is_read_again_from_its_text _ e h⟩

end CommitQuery.Query
