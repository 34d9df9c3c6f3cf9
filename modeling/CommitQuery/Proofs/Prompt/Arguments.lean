-- Where the arguments of a call start. Walking back from the end of the text of a call, over
-- strings with quotes and parentheses in them and over the calls and lambdas inside, comes to
-- the parenthesis that is a token of the text and has the arguments behind it.
import CommitQuery.Proofs.Prompt.Backward
import CommitQuery.Proofs.Query.Words

namespace CommitQuery.Query

open CommitQuery.Text CommitQuery.Query.Expr

/-! ## Texts one after the other -/

/-- A text that every lexeme ends in front of. -/
def EndsLexemes (s : List Char) : Prop := ∀ l : Lexeme, l.endsBefore s = true

theorem endsLexemes_cons {c : Char} (name : continuesName c = false) (other : c ≠ '=')
    (s : List Char) : EndsLexemes (c :: s) := by
  intro l
  cases l with
  | name x => exact (apart_cons name s).name x
  | number n => exact (apart_cons name s).number n
  | comparison op =>
    cases op with
    | greater | less => exact bne_iff_ne.mpr other
    | _ => rfl
  | _ => rfl

theorem EndsLexemes.append {l : Lexeme} {s rest : List Char} (h : EndsLexemes rest)
    (ends : l.endsBefore s = true) : l.endsBefore (s ++ rest) = true := by
  cases s with
  | nil => exact h l
  | cons c s =>
    cases l with
    | comparison op => cases op <;> exact ends
    | _ => exact ends

theorem Cuts.blanks {position stop : Nat} {s rest : List Char} {ts : List Token}
    (hs : ∀ c ∈ s, isBlank c = true) (h : Cuts (position + s.length) rest ts stop) :
    Cuts position (s ++ rest) ts stop := by
  induction s generalizing position with
  | nil => exact h
  | cons c s ih =>
    obtain ⟨first, others⟩ := List.forall_mem_cons.mp hs
    rw [List.length_cons, ← Nat.add_assoc, Nat.add_right_comm] at h
    exact (ih others h).blank_cons first

/-- Two texts are cut one after the other if the first one ends where the second starts. -/
theorem Cuts.append {position middle stop : Nat} {s rest : List Char} {ts us : List Token}
    (hs : Cuts position s ts middle) (ends : EndsLexemes rest) (hrest : Cuts middle rest us stop) :
    Cuts position (s ++ rest) (ts ++ us) stop := by
  induction hs with
  | blank blank => exact Cuts.blanks blank hrest
  | @token position _ blanks word after l ts hb hl hstop _ ih =>
    have whole := Cuts.token hb hl (ends.append hstop) (ih hrest)
    rw [← List.append_assoc] at whole
    exact whole

theorem Cuts.sign {position stop : Nat} {c : Char} {rest : List Char} {l : Lexeme} {ts : List Token}
    (h : Cuts (position + 1) rest ts stop) (hl : l.sign? = some [c])
    (ends : l.endsBefore rest = true) : Cuts position (c :: rest) (⟨position, l⟩ :: ts) stop := by
  have blank : ∀ d ∈ ([] : List Char), isBlank d = true := List.forall_mem_nil _
  have word : l.Spelled [c] := .sign hl
  exact .token blank word ends h

theorem Spells.cuts {s : List Char} {ls : List Lexeme} (h : Spells s ls) (position : Nat) :
    ∃ ts, Cuts position s ts (position + s.length) ∧ ts.map (·.lexeme) = ls := by
  obtain ⟨ts, stop, cuts, same⟩ := h position
  exact ⟨ts, cuts.stop_eq ▸ cuts, same⟩

/-! ## The tokens of a call -/

theorem spellable_call {target : Expr} {method : String} {arguments : List Expr}
    (h : Spellable (Expr.call target method arguments).lexemes) :
    Spellable (Expr.member target method).lexemes ∧ Spellable (lexemesOf arguments) := by
  obtain ⟨outer, -⟩ := spellable_append.mp h
  obtain ⟨outer, arguments_ok⟩ := spellable_append.mp outer
  obtain ⟨target_ok, own⟩ := spellable_append.mp outer
  have called : Spellable [.dot, .name method] := fun l hl => own l (List.mem_append_left _ hl)
  exact ⟨spellable_append.mpr ⟨target_ok, called⟩, arguments_ok⟩

/-- The tokens of the member that is called, an opening parenthesis, the tokens of the
arguments, and a closing parenthesis at the end. -/
theorem tokens_call {target : Expr} {method : String} {arguments : List Expr}
    (h : Spellable (Expr.call target method arguments).lexemes) :
    let text := (Expr.call target method arguments).spelling
    let before := (Expr.member target method).spelling
    ∃ front inside, tokens (String.ofList text) =
        .ok ⟨front ++ ⟨before.length, .openParen⟩ :: inside ++ [⟨text.length - 1, .closeParen⟩],
          text.length⟩ ∧
      front.map (·.lexeme) = (Expr.member target method).lexemes ∧
      inside.map (·.lexeme) = lexemesOf arguments := by
  intro text before
  have parts : text = before ++ '(' :: (spellings arguments ++ [')']) := List.append_assoc ..
  obtain ⟨member_ok, arguments_ok⟩ := spellable_call h
  have member := spells_spelling (.member target method) member_ok spells_nil (by simp [Apart])
  have inner := spells_spellings arguments arguments_ok spells_nil (by simp [Apart])
  rw [List.append_nil, List.append_nil] at member inner
  obtain ⟨front, frontCuts, frontLexemes⟩ := member.cuts 0
  obtain ⟨inside, insideCuts, insideLexemes⟩ := inner.cuts (0 + before.length + 1)
  have close : ∀ position, Cuts position [')'] [⟨position, .closeParen⟩] (position + 1) :=
    fun position => Cuts.sign (.blank (List.forall_mem_nil _)) rfl rfl
  have closed := insideCuts.append (endsLexemes_cons (by decide) (by decide) []) (close _)
  have opened := closed.sign (l := .openParen) rfl rfl
  have whole := frontCuts.append (endsLexemes_cons (by decide) (by decide) _) opened
  have stop : 0 + before.length + 1 + (spellings arguments).length = text.length - 1 ∧
      text.length - 1 + 1 = text.length := by
    simp only [parts, List.length_append, List.length_cons, List.length_nil]
    omega
  rw [← parts, stop.1, stop.2, Nat.zero_add] at whole
  refine ⟨front, inside, ?_, frontLexemes, insideLexemes⟩
  rw [tokens, String.toList_ofList, List.append_assoc]
  exact tokensFrom_eq_ok.mpr whole

end CommitQuery.Query

namespace CommitQuery.Completion

open CommitQuery.Text CommitQuery.Query CommitQuery.Query.Expr

/-! ## The law -/

/-- The byte of a text where the parenthesis stands that its last closing one belongs to. -/
def openingByte? (text : List Char) : Option Nat := (beforeArguments? text).map utf8Length

/-- In the text of a call that was read, the parenthesis that is found from the end is the one
that opens the arguments: at its byte the text parts into that of the member that is called
and that of the arguments in their parentheses. It is a token of its own, in no string, with
the lexemes of the member in front of it and those of the arguments behind it. -/
theorem a_call_is_opened_where_its_arguments_start {query : String} {target : Expr}
    {method : String} {arguments : List Expr}
    (h : Expr.parse query = .ok (.call target method arguments)) :
    let text := (Expr.call target method arguments).toText
    let before := (Expr.member target method).toText.toList
    openingByte? text.toList = some (utf8Length before) ∧
      splitBytes? (utf8Length before) text.toList =
        some (before, '(' :: spellings arguments ++ [')']) ∧
      ∃ front inside, tokens text =
          .ok ⟨front ++ ⟨before.length, .openParen⟩ :: inside ++
            [⟨text.toList.length - 1, .closeParen⟩], text.toList.length⟩ ∧
        front.map (·.lexeme) = (Expr.member target method).lexemes ∧
        inside.map (·.lexeme) = lexemesOf arguments := by
  intro text before
  have written : before = target.spelling ++ '.' :: method.toList := String.toList_ofList
  have whole : text.toList = before ++ '(' :: spellings arguments ++ [')'] := by
    rw [written]
    exact String.toList_ofList
  have inside : Neutral (spellings arguments) := by
    cases written_of_parse h with
    | call _ _ _ ha => exact neutral_spellings arguments ha
  refine ⟨?_, ?_, ?_⟩
  · rw [openingByte?, whole, beforeArguments?_append inside, Option.map_some]
  · rw [whole, List.append_assoc]
    exact splitBytes?_append _ _
  · have cut := tokens_call (spellable_of_parse h)
    have before_eq : before = (Expr.member target method).spelling := String.toList_ofList
    have text_eq : text.toList = (Expr.call target method arguments).spelling :=
      String.toList_ofList
    rw [before_eq, text_eq]
    exact cut

/-- Strings that hold the other quotes and parentheses without their partners, a lambda in a
lambda, and a character of several bytes. -/
def nestedCall : String :=
  "Commits.Where(c => c.Message == \"('→\")" ++
    ".Any(c=>c.Diff.Files.Any(f => f.Path==')\"'||f.IsBinary))"

theorem a_nested_call_is_opened_where_its_arguments_start :
    ∃ target arguments, Expr.parse nestedCall = .ok (.call target "Any" arguments) ∧
      (Expr.member target "Any").toText = "Commits.Where(c => c.Message == \"('→\").Any" ∧
      openingByte? (Expr.call target "Any" arguments).toText.toList = some 44 := by
  have h : ∃ target arguments, Expr.parse nestedCall = .ok (.call target "Any" arguments) ∧
      (Expr.member target "Any").toText = "Commits.Where(c => c.Message == \"('→\").Any" :=
    ⟨_, _, by cbv, by cbv⟩
  obtain ⟨target, arguments, h, text⟩ := h
  refine ⟨target, arguments, h, text, ?_⟩
  rw [(a_call_is_opened_where_its_arguments_start h).1, text]
  decide

end CommitQuery.Completion
