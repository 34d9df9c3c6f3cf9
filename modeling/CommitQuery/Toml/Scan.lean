-- Scanning TOML text: white space, comments, strings, numbers, and points in
-- time. A scan takes characters off the front of a text or fails.
import CommitQuery.Text.Digits
import CommitQuery.Time.Timestamp

namespace CommitQuery.Toml

/-- A scan gives a value and leaves the rest of the text. -/
abbrev Scan (α : Type) := StateT (List Char) Option α

namespace Scan

/-! ## Characters -/

/-- One character of a kind. -/
def one (isOne : Char → Bool) : Scan Char := fun
  | c :: rest => if isOne c then some (c, rest) else none
  | [] => none

/-- One given character. -/
def char (c : Char) : Scan Unit := do discard (one (· = c))

/-- A given text. -/
def literally (s : List Char) : Scan Unit := fun text =>
  if s.isPrefixOf text then some ((), text.drop s.length) else none

/-- All characters of a kind up to the first other one. -/
def span (isOne : Char → Bool) : Scan (List Char) := fun s =>
  some (s.takeWhile isOne, s.dropWhile isOne)

/-- Runs a scan up to `count` times, until it fails. -/
def upTo {α : Type} (p : Scan α) : Nat → Scan (List α)
  | 0 => pure []
  | count + 1 => (do
      let a ← p
      let more ← upTo p count
      return a :: more) <|> pure []

/-- Runs a scan until it fails. It has to take a character each time. -/
def many {α : Type} (p : Scan α) : Scan (List α) := fun s => upTo p s.length s

/-- Items with separators between them, at least one item. -/
def separated {α : Type} (separator : Scan Unit) (item : Scan α) : Scan (List α) := do
  let first ← item
  let more ← many (do separator; item)
  return first :: more

/-- What a scan gives, and the text that it takes. -/
def spelled {α : Type} (p : Scan α) : Scan (α × String) := fun s => do
  let (a, rest) ← p s
  return ((a, String.ofList (s.take (s.length - rest.length))), rest)

/-! ## Space and comments -/

def isSpace (c : Char) : Bool := c = ' ' || c = '\t'

/-- A character that strings and comments can hold as it is. -/
def isPlain (c : Char) : Bool := c = '\t' || (' ' ≤ c && c ≠ '\x7f')

def space : Scan Unit := do discard (span isSpace)

def newline : Scan Unit := char '\n' <|> literally ['\r', '\n']

def comment : Scan Unit := do
  char '#'
  discard (span isPlain)

/-- The end of the text. -/
def atEnd : Scan Unit := fun s => if s.isEmpty then some ((), s) else none

/-- What may follow on the line of a statement. -/
def lineEnd : Scan Unit := do
  space
  discard (optional comment)
  newline <|> atEnd

/-- Space, newlines and whole comments, as they stand in arrays. -/
def gap : Scan Unit := do
  space
  discard (many (do
    (do comment; newline) <|> newline
    space))

/-! ## Strings -/

/-- A hexadecimal digit. -/
def hexDigit : Scan Nat := fun
  | c :: rest => (Text.hexValue? c).map (·, rest)
  | [] => none

/-- The number that digits of a base write. -/
def ofDigits (base : Nat) (digits : List Nat) : Nat := digits.foldl (fun n d => base * n + d) 0

/-- The character with a code of so many hexadecimal digits. -/
def codePoint (digits : Nat) : Scan Char := do
  let list ← upTo hexDigit digits
  let n := ofDigits 16 list
  if list.length = digits && (n < 0xD800 || (0xE000 ≤ n && n < 0x110000)) then return Char.ofNat n
  else failure

/-- The character behind a backslash. -/
def escape : Scan Char := do
  match ← one fun _ => true with
  | 'b' => return '\x08'
  | 'f' => return '\x0c'
  | 'n' => return '\n'
  | 'r' => return '\r'
  | 't' => return '\t'
  | '\\' => return '\\'
  | '"' => return '"'
  | 'u' => codePoint 4
  | 'U' => codePoint 8
  | _ => failure

def plainBasic : Scan Char := one fun c => isPlain c && c ≠ '"' && c ≠ '\\'

def plainLiteral : Scan Char := one fun c => isPlain c && c ≠ '\''

/-- A character that a backslash stands in front of. -/
def escaped : Scan Char := do
  char '\\'
  escape

def basicString : Scan (List Char) := do
  char '"'
  let s ← many (plainBasic <|> escaped)
  char '"'
  return s

def literalString : Scan (List Char) := do
  char '\''
  let s ← many plainLiteral
  char '\''
  return s

/-- All quotes in a row, if there are not fewer and not more of them. -/
def quotes (quote : Char) (fewest most : Nat) : Scan (List Char) := do
  let run ← span (· = quote)
  if fewest ≤ run.length && run.length ≤ most then return run else failure

/-- A newline inside a string of many lines. -/
def innerNewline : Scan (List Char) := do
  newline
  return ['\n']

/-- A backslash at the end of a line, with all space up to the next text. -/
def continuation : Scan (List Char) := do
  char '\\'
  space
  newline
  discard (many (newline <|> do discard (one isSpace)))
  return []

/-- A string between three quotes. A newline right after the first three does not
count; one or two quotes may stand anywhere, also before the last three. -/
def manyLines (quote : Char) (piece : Scan (List Char)) : Scan (List Char) := do
  literally [quote, quote, quote]
  discard (optional newline)
  let pieces ← many (piece <|> innerNewline <|> quotes quote 1 2)
  let last ← quotes quote 3 5
  return pieces.flatten ++ last.drop 3

def single (p : Scan Char) : Scan (List Char) := do return [← p]

/-- A string of any of the four kinds. -/
def string : Scan String := do
  let s ← manyLines '"' (single plainBasic <|> continuation <|> single escaped) <|> basicString <|>
    manyLines '\'' (single plainLiteral) <|> literalString
  return String.ofList s

/-! ## Numbers -/

/-- Digits with underscores between them. -/
def grouped (digit : Scan Nat) : Scan (List Nat) := do
  let first ← digit
  let more ← many (digit <|> do char '_'; digit)
  return first :: more

/-- A digit of a base of at most sixteen. -/
def digitOf (base : Nat) : Scan Nat := do
  let d ← hexDigit
  if d < base then return d else failure

def decimalDigit : Scan Nat := digitOf 10

/-- Whether a sign is a minus; no sign is a plus. -/
def sign : Scan Bool := do
  match ← optional (one fun c => c = '+' || c = '-') with
  | some c => return c = '-'
  | none => return false

/-- The sign and the digits of a decimal integer: no zero in front of other digits. -/
def decimal : Scan (Bool × List Nat) := do
  let negative ← sign
  let digits ← (do
      let digits ← grouped decimalDigit
      if digits.head? = some 0 then failure else return digits) <|>
    (do return [← decimalDigit])
  return (negative, digits)

/-- An integer of 64 bits. -/
def within (n : Int) : Scan Int64 :=
  if Int64.minValue.toInt ≤ n && n ≤ Int64.maxValue.toInt then pure (Int64.ofInt n) else failure

/-- A number of another base, behind a zero and a letter. -/
def based (letter : Char) (base : Nat) : Scan Int64 := do
  literally ['0', letter]
  within (ofDigits base (← grouped (digitOf base)))

def integer : Scan Int64 :=
  based 'x' 16 <|> based 'o' 8 <|> based 'b' 2 <|> do
    let (negative, digits) ← decimal
    let n : Int := ofDigits 10 digits
    within (if negative then -n else n)

/-- The digits behind a point. -/
def fraction : Scan (List Nat) := do
  char '.'
  grouped decimalDigit

/-- The sign and the digits of an exponent. -/
def exponent : Scan (Bool × List Nat) := do
  discard (one fun c => c = 'e' || c = 'E')
  let negative ← sign
  return (negative, ← grouped decimalDigit)

/-- The first whole number that is too large for a double. -/
def doubleLimit : Nat := Nat.pow 2 1024 - Nat.pow 2 970

/-- Whether `m * 10 ^ e` is too large for a double. -/
def overflows (m : Nat) (e : Int) : Bool :=
  if m = 0 then false
  else if 400 < e then true
  else if 0 ≤ e then doubleLimit ≤ m * Nat.pow 10 e.toNat
  else decide ((m.log2 : Int) + 1 ≥ 1024 + 3 * -e) && doubleLimit * Nat.pow 10 (-e).toNat ≤ m

/-- A decimal float. A positive one has to fit in a double. -/
def decimalFloat : Scan Unit := do
  let (negative, whole) ← decimal
  let (digits, e) ← (do
      let digits ← fraction
      return (digits, ← optional exponent)) <|>
    (do return ([], some (← exponent)))
  let power : Int := match e with
    | some (true, e) => -ofDigits 10 e
    | some (false, e) => ofDigits 10 e
    | none => 0
  if !negative && overflows (ofDigits 10 (whole ++ digits)) (power - digits.length) then failure

def specialFloat : Scan Unit := do
  discard sign
  literally "inf".toList <|> literally "nan".toList

def float : Scan Unit := decimalFloat <|> specialFloat

/-! ## Points in time -/

/-- A number of so many digits between two bounds. -/
def field (digits low high : Nat) : Scan Nat := do
  let list ← upTo decimalDigit digits
  let n := ofDigits 10 list
  if list.length = digits && low ≤ n && n ≤ high then return n else failure

def date : Scan Unit := do
  let year ← field 4 0 9999
  char '-'
  let month ← field 2 1 12
  char '-'
  let day ← field 2 1 31
  if Date.isValid ⟨year, month, day⟩ then pure () else failure

def timeOfDay : Scan Unit := do
  discard (field 2 0 23)
  char ':'
  discard (field 2 0 59)
  char ':'
  discard (field 2 0 60)
  discard (optional (do
    char '.'
    discard decimalDigit
    many decimalDigit))

def offset : Scan Unit :=
  (do discard (one fun c => c = 'Z' || c = 'z')) <|> do
    discard (one fun c => c = '+' || c = '-')
    discard (field 2 0 23)
    char ':'
    discard (field 2 0 59)

/-- A date, a time of day, or both and perhaps an offset. -/
def moment : Scan Unit :=
  (do
    date
    discard (optional (do
      discard (one fun c => c = 'T' || c = 't' || c = ' ')
      timeOfDay
      discard (optional offset)))) <|>
  timeOfDay

end Scan

end CommitQuery.Toml
