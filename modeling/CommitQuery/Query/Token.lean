-- Tokens of a query and how a text is cut into them. Blanks between tokens are
-- skipped, a name or a number goes on as long as it can, and a string ends at
-- the next quote of the kind that opened it.
import CommitQuery.Query.Malformed
import CommitQuery.Query.Operator
import CommitQuery.Text.Digits

namespace CommitQuery.Query

open CommitQuery.Text

/-- What a token says. -/
inductive Lexeme
  | name (s : String)
  | text (s : String)
  | number (n : Int32)
  | dot
  | comma
  | openParen
  | closeParen
  | arrow
  | comparison (c : Comparison)
  | connective (c : Connective)
deriving DecidableEq, Repr

/-- A lexeme as error messages show it. -/
def Lexeme.shown : Lexeme → String
  | .name s => "identifier '" ++ s ++ "'"
  | .text s => "string \"" ++ s ++ "\""
  | .number n => "number " ++ toString n.toInt
  | .dot => "'.'"
  | .comma => "','"
  | .openParen => "'('"
  | .closeParen => "')'"
  | .arrow => "'=>'"
  | .comparison c => "'" ++ c.symbol ++ "'"
  | .connective c => "'" ++ c.symbol ++ "'"

/-- How error messages call the end of the query. -/
def endOfInput : String := "end of input"

/-- A lexeme and the place of its first character. -/
structure Token where
  position : Nat
  lexeme : Lexeme
deriving DecidableEq, Repr

/-- All tokens of a text, and the place where the text ends. -/
structure Tokens where
  list : List Token
  stop : Nat
deriving DecidableEq, Repr

/-! ## One token -/

/-- Why no token starts at some place. -/
inductive BadToken
  | numberTooLarge (digits : List Char)
  | unclosed (quote : Char)
  | unexpected (c : Char)
deriving DecidableEq, Repr

def BadToken.expected : BadToken → String
  | .numberTooLarge _ => "32-bit integer"
  | .unclosed quote => "closing " ++ quote.toString
  | .unexpected _ => "identifier, literal, operator or punctuation"

def BadToken.found : BadToken → String
  | .numberTooLarge digits => "'" ++ String.ofList digits ++ "'"
  | .unclosed _ => endOfInput
  | .unexpected c => "'" ++ c.toString ++ "'"

def isQuote (c : Char) : Bool := c = '"' || c = '\''

def startsName (c : Char) : Bool := isLetter c || c = '_'

def continuesName (c : Char) : Bool := isLetterOrNumeral c || c = '_'

/-- The largest number that a query can write. -/
def largestNumber : Nat := 2147483647

/-- Punctuation that starts with `c` before `rest`; two characters go before one. -/
def symbol? (c : Char) (rest : List Char) : Option (Lexeme × List Char) :=
  match c, rest with
  | '=', '>' :: after => some (.arrow, after)
  | '=', '=' :: after => some (.comparison .equal, after)
  | '!', '=' :: after => some (.comparison .notEqual, after)
  | '>', '=' :: after => some (.comparison .greaterOrEqual, after)
  | '<', '=' :: after => some (.comparison .lessOrEqual, after)
  | '&', '&' :: after => some (.connective .and, after)
  | '|', '|' :: after => some (.connective .or, after)
  | '>', after => some (.comparison .greater, after)
  | '<', after => some (.comparison .less, after)
  | '.', after => some (.dot, after)
  | ',', after => some (.comma, after)
  | '(', after => some (.openParen, after)
  | ')', after => some (.closeParen, after)
  | _, _ => none

/-- The lexeme that starts with `c` before `rest`, and the text after it. -/
def readLexeme (c : Char) (rest : List Char) : Except BadToken (Lexeme × List Char) :=
  if startsName c then
    .ok (.name (String.ofList (c :: rest.takeWhile continuesName)), rest.dropWhile continuesName)
  else if isAsciiDigit c then
    let digits := c :: rest.takeWhile isAsciiDigit
    if digitsValue digits ≤ largestNumber then
      .ok (.number (Int32.ofNat (digitsValue digits)), rest.dropWhile isAsciiDigit)
    else .error (.numberTooLarge digits)
  else if isQuote c then
    match cutAt c rest with
    | (content, some after) => .ok (.text (String.ofList content), after)
    | (_, none) => .error (.unclosed c)
  else match symbol? c rest with
    | some token => .ok token
    | none => .error (.unexpected c)

theorem length_cutAt_lt {q : Char} {s before after : List Char}
    (h : cutAt q s = (before, some after)) : after.length < s.length := by
  induction s generalizing before after with
  | nil => simp [cutAt] at h
  | cons c rest ih =>
    unfold cutAt at h
    split at h
    · cases h; simp
    · cases hcut : cutAt q rest with
      | mk b a =>
        simp only [hcut, Prod.mk.injEq] at h
        obtain ⟨-, rfl⟩ := h
        have := ih hcut
        simp only [List.length_cons]
        omega

theorem length_symbol?_le {c : Char} {rest after : List Char} {l : Lexeme}
    (h : symbol? c rest = some (l, after)) : after.length ≤ rest.length := by
  unfold symbol? at h
  split at h <;> simp_all

/-- Reading a lexeme never gives text back. -/
theorem length_readLexeme_le {c : Char} {rest after : List Char} {l : Lexeme}
    (h : readLexeme c rest = .ok (l, after)) : after.length ≤ rest.length := by
  unfold readLexeme at h
  split at h
  · simp only [Except.ok.injEq, Prod.mk.injEq] at h
    rw [← h.2]
    exact (List.dropWhile_sublist continuesName).length_le
  · split at h
    · dsimp only at h
      split at h
      · simp only [Except.ok.injEq, Prod.mk.injEq] at h
        rw [← h.2]
        exact (List.dropWhile_sublist isAsciiDigit).length_le
      · cases h
    · split at h
      · split at h
        · simp only [Except.ok.injEq, Prod.mk.injEq] at h
          rename_i hcut
          rw [← h.2]
          exact Nat.le_of_lt (length_cutAt_lt hcut)
        · cases h
      · split at h
        · rename_i hsym
          simp only [Except.ok.injEq] at h
          subst h
          exact length_symbol?_le hsym
        · cases h

/-! ## A whole text -/

/-- The tokens of a text whose first character stands at `position`. -/
def tokensFrom (position : Nat) (s : List Char) : Except Malformed Tokens :=
  let start := position + (s.takeWhile isBlank).length
  match _hs : s.dropWhile isBlank with
  | [] => .ok ⟨[], start⟩
  | c :: rest =>
    match _hl : readLexeme c rest with
    | .error bad => .error ⟨start, bad.expected, bad.found⟩
    | .ok (lexeme, after) =>
      match tokensFrom (start + (rest.length + 1 - after.length)) after with
      | .error e => .error e
      | .ok more => .ok ⟨⟨start, lexeme⟩ :: more.list, more.stop⟩
termination_by s.length
decreasing_by
  have h1 := length_readLexeme_le _hl
  have h2 := (List.dropWhile_sublist isBlank (l := s)).length_le
  rw [_hs, List.length_cons] at h2
  omega

/-- The tokens of a query, or the first place where none starts. -/
def tokens (query : String) : Except Malformed Tokens := tokensFrom 0 query.toList

end CommitQuery.Query
