-- A query that compiles is not taken for a command. The prompt looks at the first word of a
-- line; a query starts with the name of the root or with a literal, so that word is the name
-- by itself, or it holds a digit, a quote or a sign, which no word of a command does.
import CommitQuery.Proofs.Commit.Honest
import CommitQuery.Proofs.Plan.Compiled
import CommitQuery.Proofs.Query.Written
import CommitQuery.Proofs.Text.CaseTable
import CommitQuery.Prompt.Command

namespace CommitQuery

open CommitQuery.Text

/-! ## Words of commands -/

namespace Command

/-- The words of the commands, in small letters. A question mark stands for one more. -/
def words : List String :=
  ["help", "h", "examples", "ex", "samples", "history", "hist", "save", "clear", "cls", "exit",
    "quit", "explain"]

/-- A character of ASCII that is no letter and no question mark. -/
def IsForeign (c : Char) : Prop := c.toNat < 128 ∧ isAsciiLetter c = false ∧ c ≠ '?'

instance (c : Char) : Decidable (IsForeign c) := inferInstanceAs (Decidable (_ ∧ _))

theorem isAsciiLetter_of_mem_words :
    ∀ w ∈ words, ∀ c ∈ w.toList, isAsciiLetter c = true := by
  have all : (words.all fun w => w.toList.all isAsciiLetter) = true := by decide +kernel
  simpa only [List.all_eq_true] using all

/-- A word of a command has no such character, in any case of letters. -/
theorem IsForeign.lowercase_ne {c : Char} (h : IsForeign c) {s : List Char} (hc : c ∈ s) :
    lowercase (String.ofList s) ∉ words ∧ lowercase (String.ofList s) ≠ "?" := by
  obtain ⟨small, sign, other⟩ := h
  have kept : c ∈ (lowercase (String.ofList s)).toList := by
    rw [lowercase, String.toList_ofList, String.toList_ofList]
    exact (mem_lowerList_iff small sign).mpr hc
  constructor
  · intro word
    rw [isAsciiLetter_of_mem_words _ word c kept] at sign
    cases sign
  · intro mark
    rw [mark] at kept
    exact other (List.mem_singleton.mp kept)

/-! ## The first word of a line -/

/-- The characters of a text up to its first blank. -/
def untilBlank (s : List Char) : List Char := s.takeWhile fun c => !isBlank c

theorem explainWord_eq : explainWord = ['e', 'x', 'p', 'l', 'a', 'i', 'n'] := rfl

theorem isSmall_of_mem_explainWord : ∀ c ∈ explainWord, 97 ≤ c.toNat ∧ c.toNat ≤ 122 := by
  have all : (explainWord.all fun c => decide (97 ≤ c.toNat ∧ c.toNat ≤ 122)) = true := by decide
  simpa only [List.all_eq_true, decide_eq_true_eq] using all

theorem trimStart_explainWord (s : List Char) :
    trimStart (explainWord ++ s) = explainWord ++ s := by
  rw [explainWord_eq]
  exact trimStart_eq_self fun c hc => Option.some.inj hc ▸ by decide

theorem fst_firstWord (s : List Char) : (firstWord s).1 = untilBlank s := rfl

/-- Only the word `explain` asks for a plan. -/
theorem lowercase_of_explained? {line query : String} (h : explained? line = some query) :
    lowercase (String.ofList (untilBlank (trimStart line.toList))) = "explain" := by
  unfold explained? at h
  dsimp only at h
  generalize trimStart line.toList = s at h ⊢
  split at h
  · cases h
  · rename_i same
    rw [not_not] at same
    split at h
    · rename_i stop
      -- What `explain` is in small letters are letters, so that none of them is a blank and the
      -- word goes on to where the keyword ends.
      have letters : ∀ c ∈ s.take explainWord.length, isAsciiLetter c = true := by
        intro c hc
        obtain ⟨_, _⟩ := isSmall_of_mem_explainWord _ (same ▸ List.mem_map_of_mem hc)
        have place := toNat_asciiLower c
        rw [isAsciiLetter_iff]
        split at place <;> omega
      have word : untilBlank s = s.take explainWord.length := by
        conv_lhs => rw [← List.take_append_drop explainWord.length s]
        refine (span_append (fun c hc => ?_) fun c hc => ?_).1
        · rw [isBlank_of_isAsciiLetter (letters c hc), Bool.not_false]
        · rw [Option.mem_def.mp hc] at stop
          simpa using stop
      have small : ∀ c ∈ s.take explainWord.length, c.toNat < 128 := fun c hc => by
        have := isAsciiLetter_iff.mp (letters c hc)
        omega
      rw [word, lowercase, String.toList_ofList, lowerList_of_ascii small, same]
      rfl
    · cases h

/-- A line whose first word is no command is a query. -/
theorem parse_eq_query {line : String} (visible : untilBlank (trimStart line.toList) ≠ [])
    (free : lowercase (String.ofList (untilBlank (trimStart line.toList))) ∉ words)
    (other : lowercase (String.ofList (untilBlank (trimStart line.toList))) ≠ "?") :
    parse line = .query (trim line) := by
  have own : untilBlank (trim line).toList = untilBlank (trimStart line.toList) := by
    rw [trim, String.toList_ofList]
    exact takeWhile_trimEnd _
  have plain : explained? (trim line) = none := by
    refine Option.eq_none_iff_forall_ne_some.mpr fun query plan => free ?_
    have word := lowercase_of_explained? plan
    rw [trimStart_trim, untilBlank, takeWhile_trimEnd, ← untilBlank] at word
    rw [word]
    decide
  have some_text : (trim line).isEmpty = false := by
    refine Bool.eq_false_iff.mpr fun none => visible ?_
    rw [← own, String.isEmpty_iff.mp none]
    rfl
  have no_command : ∀ w ∈ "?" :: words,
      lowercase (String.ofList (firstWord (trim line).toList).1) ≠ w := by
    rw [fst_firstWord, own]
    rintro w hw rfl
    rcases List.mem_cons.mp hw with mark | word
    · exact other mark
    · exact free word
  simp only [parse, some_text, plain, Bool.false_eq_true, if_false]
  split
  all_goals first
    | rfl
    | exact absurd ‹_› (no_command _ (by simp [words]))

/-! ## Plans -/

theorem explained?_word (s : List Char) (h : ∀ c ∈ s.head?, isBlank c = true) :
    explained? (String.ofList (explainWord ++ s)) = some (trim (String.ofList s)) := by
  have lower : explainWord.map asciiLower = explainWord := by decide
  unfold explained?
  rw [String.toList_ofList]
  dsimp only
  rw [trimStart_explainWord, List.take_left, lower, if_neg (not_not.mpr rfl), List.drop_left,
    if_pos]
  cases s with
  | nil => rfl
  | cons c rest => exact h c rfl

/-- What stands behind the word `explain` and a blank is explained, whatever it is. -/
theorem parse_explain (query : String) :
    parse ("explain " ++ query) = .explain (trim query) := by
  have line : trim ("explain " ++ query) =
      String.ofList (explainWord ++ trimEnd (' ' :: query.toList)) := by
    have whole : ("explain " ++ query).toList = explainWord ++ ' ' :: query.toList := by
      rw [String.toList_append]
      rfl
    have stop : ∀ c ∈ explainWord.getLast?, isBlank c = false := fun c hc =>
      Option.some.inj hc ▸ by decide
    rw [trim, whole, trimStart_explainWord, trimEnd_append_of_getLast? stop]
  have argument : trim (String.ofList (trimEnd (' ' :: query.toList))) = trim query := by
    rw [trim, String.toList_ofList, trimEnd_trimStart_trimEnd, trim]
    rfl
  have blank : ∀ c ∈ (trimEnd (' ' :: query.toList)).head?, isBlank c = true := by
    intro c hc
    cases head?_trimEnd c hc
    decide
  have some_text : (trim ("explain " ++ query)).isEmpty = false := by
    rw [line, explainWord_eq]
    simp
  have plan := explained?_word _ blank
  rw [← line, argument] at plan
  simp only [parse, some_text, plan, Bool.false_eq_true, if_false]

end Command

/-! ## What a query starts with -/

namespace Query

open Command (IsForeign)

/-- The lexeme that a tree starts with, unless the tree is a lambda. -/
def Expr.opening? : Expr → Option Lexeme
  | .name s => some (.name s)
  | .text s => some (.text s)
  | .number n => some (.number n)
  | .member target _ | .call target _ _ => target.opening?
  | .binary left _ _ => left.opening?
  | .lambda _ _ => none

namespace Grammar

/-- A tree starts with the first of some lexemes. -/
def Opens (ls : List Lexeme) (e : Expr) : Prop := ∃ l, ls.head? = some l ∧ e.opening? = some l

theorem Opens.append {ls : List Lexeme} {e whole : Expr} (h : Opens ls e)
    (same : whole.opening? = e.opening?) (rs : List Lexeme) : Opens (ls ++ rs) whole := by
  obtain ⟨l, first, opening⟩ := h
  refine ⟨l, ?_, same.trans opening⟩
  rw [List.head?_append, first, Option.some_or]

theorem Operand.opens {ls : List Lexeme} {e : Expr} (h : Operand ls e) : Opens ls e := by
  cases h with
  | name s => exact ⟨_, rfl, rfl⟩
  | text s => exact ⟨_, rfl, rfl⟩
  | number n => exact ⟨_, rfl, rfl⟩
  | member ht field => exact ht.opens.append rfl _
  | call ht method ha => exact ((ht.opens.append rfl _).append rfl _).append rfl _

theorem Compared.opens {ls : List Lexeme} {e : Expr} (h : Compared ls e) : Opens ls e := by
  cases h with
  | one h => exact h.opens
  | compare hl c hr => exact hl.opens.append rfl _

theorem Both.opens {ls : List Lexeme} {e : Expr} (h : Both ls e) : Opens ls e := by
  cases h with
  | one h => exact h.opens
  | and hl hr => exact hl.opens.append rfl _

theorem Either.opens {ls : List Lexeme} {e : Expr} (h : Either ls e) : Opens ls e := by
  cases h with
  | one h => exact h.opens
  | or hl hr => exact hl.opens.append rfl _

theorem Expression.opens {ls : List Lexeme} {e : Expr} (h : Expression ls e)
    (value : e.isLambda = false) : Opens ls e := by
  cases h with
  | lambda hp hb => cases value
  | either h => exact h.opens

end Grammar

/-- The text of a query is blanks, the word of the lexeme that it starts with, and a rest that
does not go on with that word and is cut into tokens. -/
theorem exists_opening {query : String} {e : Expr} (h : Expr.parse query = .ok e)
    (value : e.isLambda = false) : ∃ blanks word rest l position stop ts,
      query.toList = blanks ++ word ++ rest ∧ (∀ c ∈ blanks, isBlank c = true) ∧
      e.opening? = some l ∧ l.Spelled word ∧ l.endsBefore rest = true ∧
      Cuts position rest ts stop := by
  obtain ⟨tokens, cut, tree⟩ := parse_eq_ok.mp h
  obtain ⟨after, reads, result⟩ := ofTokens_eq_ok.mp tree
  have derived := (hasRead_start.reads reads).result result
  obtain ⟨l, first, opening⟩ := derived.opens value
  have cuts := cuts_of_tokensFrom 0 query.toList cut
  generalize query.toList = s at cuts
  generalize tokens.list = list, tokens.stop = stop at cuts first
  cases cuts with
  | blank hs => cases first
  | @token _ _ blanks word rest own ts hb hl hstop cuts =>
    cases first
    exact ⟨blanks, word, rest, _, _, _, ts, rfl, hb, opening, hl, hstop, cuts⟩

/-! ## Where a word ends -/

theorem isForeign_of_isAsciiDigit {c : Char} (h : isAsciiDigit c = true) : IsForeign c := by
  rw [isAsciiDigit_iff] at h
  refine ⟨by omega, ?_, ?_⟩
  · rw [Bool.eq_false_iff, Ne, isAsciiLetter_iff]
    omega
  · rintro rfl
    revert h
    decide

/-- Every lexeme but a name starts with a character that no command has. -/
theorem Lexeme.Spelled.isForeign {l : Lexeme} {c : Char} {s : List Char}
    (h : l.Spelled (c :: s)) : (∃ x, l = .name x) ∨ IsForeign c := by
  cases h with
  | name hc hrest => exact .inl ⟨_, rfl⟩
  | number hd hle => exact .inr (isForeign_of_isAsciiDigit (hd c List.mem_cons_self))
  | text hq hc =>
    simp only [isQuote, Bool.or_eq_true, decide_eq_true_eq] at hq
    rcases hq with rfl | rfl
    · exact .inr (by decide)
    · exact .inr (by decide)
  | sign h =>
    cases l with
    | comparison op => cases op <;> cases h <;> exact .inr (by decide)
    | connective op => cases op <;> cases h <;> exact .inr (by decide)
    | name s => cases h
    | text s => cases h
    | number n => cases h
    | _ =>
      cases h
      exact .inr (by decide)

theorem Lexeme.Spelled.startsName {x : String} {c : Char} {s : List Char}
    (h : (Lexeme.name x).Spelled (c :: s)) : startsName c = true := by
  cases h with
  | name hc hrest => exact hc
  | sign h => cases h

theorem Lexeme.Spelled.eq_toList {x : String} {w : List Char} (h : (Lexeme.name x).Spelled w) :
    w = x.toList := by
  cases h with
  | name hc hrest => exact (String.toList_ofList).symm
  | sign h => cases h

/-- A text that is cut into tokens starts with a blank or with a token. -/
theorem Cuts.head {position stop : Nat} {s : List Char} {ts : List Token}
    (h : Cuts position s ts stop) :
    ∀ c ∈ s.head?, isBlank c = true ∨ startsName c = true ∨ IsForeign c := by
  intro c hc
  cases h with
  | blank hs => exact .inl (hs c (List.mem_of_mem_head? hc))
  | @token _ _ blanks word rest l ts hb hl hstop h =>
    cases blanks with
    | cons d more => exact .inl (hb c (List.mem_of_mem_head? hc))
    | nil =>
      obtain ⟨d, more, rfl, -⟩ := hl.head
      cases hc
      rcases hl.isForeign with ⟨x, rfl⟩ | foreign
      · exact .inr (.inl hl.startsName)
      · exact .inr (.inr foreign)

end Query

/-! ## The name at the start -/

variable {κ ρ : Type} [DecidableEq κ] {S : Schema κ ρ} {root : Root κ ρ}

/-- A name that a query starts with stands outside of all lambdas. -/
theorem Plan.name_of_opening? {e : Query.Expr} {p : Plan κ ρ} {element : Option (ValueType κ)}
    (h : Plan.compileIn S root [] element e = .ok p) {x : String}
    (hx : e.opening? = some (.name x)) : x = root.name := by
  fun_induction Query.Expr.opening? e generalizing p with
  | case1 s =>
    cases hx
    exact (Plan.ofName_root (S := S) h).1
  | case4 target field ih =>
    obtain ⟨source, m, hs, -⟩ := Plan.compileIn_member h
    exact ih hs hx
  | case5 target method arguments ih =>
    obtain ⟨source, hs, -⟩ := Plan.compileIn_call h
    exact ih hs hx
  | case6 left op right ih =>
    obtain ⟨⟨l, hl⟩, -⟩ := Plan.compileIn_binary h
    exact ih hl hx
  | _ => cases hx

namespace Command

/-- The first word of a query that compiles is the name of the root, or it has a character that
no command has. -/
theorem first_word_of_query {query : String} {p : Plan κ ρ}
    (h : Plan.compileText S root query = .ok p) :
    (untilBlank (trimStart query.toList) = root.name.toList ∧ Query.IsName root.name) ∨
      ∃ c ∈ untilBlank (trimStart query.toList), IsForeign c := by
  obtain ⟨e, parsed, value, compiled⟩ := Plan.compileText_eq_ok h
  obtain ⟨blanks, word, rest, l, position, stop, ts, whole, blank, opening, spelled, ends, cuts⟩ :=
    Query.exists_opening parsed value
  obtain ⟨c, more, rfl, visible⟩ := spelled.head
  have start : trimStart query.toList = c :: more ++ rest := by
    rw [whole, List.append_assoc]
    exact (span_append blank (by simpa using visible)).2
  rw [start]
  rcases spelled.isForeign with ⟨x, rfl⟩ | foreign
  · obtain rfl := Plan.name_of_opening? compiled opening
    have same := spelled.eq_toList
    rw [same] at spelled ⊢
    have continues := Query.IsName.continues spelled
    have run : untilBlank (root.name.toList ++ rest) = root.name.toList ++ untilBlank rest :=
      List.takeWhile_append_of_pos fun d hd => by
        rw [Query.isBlank_of_continuesName (continues d hd), Bool.not_false]
    rw [run]
    -- Right behind the name stands a blank, or a token that cannot go on with the name.
    cases rest with
    | nil => exact .inl ⟨List.append_nil _, spelled⟩
    | cons d tail =>
      by_cases gap : isBlank d = true
      · refine .inl ⟨?_, spelled⟩
        simp [untilBlank, gap]
      · rcases cuts.head d rfl with blank | name | foreign
        · exact absurd blank gap
        · have stop := Query.endsBefore_name.mp ends d rfl
          rw [Query.continuesName_of_startsName name] at stop
          cases stop
        · exact .inr ⟨d, by simp [untilBlank, gap], foreign⟩
  · exact .inr ⟨c, by simp [untilBlank, visible], foreign⟩

/-! ## The law -/

/-- No query that compiles is taken for a command, unless the root has the name of one: typed
by itself it is a query, and behind the word `explain` its plan is asked for. -/
theorem no_query_is_taken_for_a_command {query : String} {p : Plan κ ρ}
    (free : lowercase root.name ∉ words) (h : Plan.compileText S root query = .ok p) :
    parse query = .query (trim query) ∧ parse ("explain " ++ query) = .explain (trim query) := by
  refine ⟨?_, parse_explain query⟩
  rcases first_word_of_query h with ⟨same, name⟩ | ⟨c, hc, foreign⟩
  · have other : lowercase root.name ≠ "?" := fun mark => by
      have mem : '?' ∈ lowerList root.name.toList := by
        rw [← String.toList_ofList (l := lowerList root.name.toList), ← lowercase, mark]
        exact List.mem_singleton.mpr rfl
      exact absurd (name.continues _ ((mem_lowerList_iff (by decide) (by decide)).mp mem))
        (by decide)
    refine parse_eq_query ?_ ?_ ?_
    · rw [same]
      exact name.ne_nil
    · rw [same, String.ofList_toList]
      exact free
    · rw [same, String.ofList_toList]
      exact other
  · obtain ⟨free, other⟩ := foreign.lowercase_ne hc
    exact parse_eq_query (List.ne_nil_of_mem hc) free other

/-- The commits of a repository under a name that starts like a command. -/
def exits : Root (Kind Empty) (Record Empty) := { Root.ofCommits [.blank] with name := "Exits" }

def spacedQuery : String := " \t Exits\n.Where ( c =>\u00A0c.Message == '?' ) .Count() "

/-- A name that starts like a command and blanks of all kinds do not make a query a command. -/
theorem a_spaced_query_over_exits_is_no_command :
    lowercase exits.name ∉ words ∧
      (∃ p, Plan.compileText Extension.nothing.schema exits spacedQuery = .ok p) ∧
      parse spacedQuery = .query (trim spacedQuery) ∧
      parse ("explain " ++ spacedQuery) = .explain (trim spacedQuery) := by
  have small : lowercase exits.name = "exits" := by cbv
  have free : lowercase exits.name ∉ words := small ▸ by decide
  have compiles : ∃ p, Plan.compileText Extension.nothing.schema exits spacedQuery = .ok p :=
    ⟨_, by cbv⟩
  obtain ⟨p, h⟩ := compiles
  exact ⟨free, ⟨p, h⟩, no_query_is_taken_for_a_command free h⟩

end Command

end CommitQuery
