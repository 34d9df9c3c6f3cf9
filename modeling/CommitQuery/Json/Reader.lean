-- Reading JSON text: first its tokens, then the value they build. The reader
-- holds the arrays and objects that are open, so that one pass over the tokens
-- decides.
import CommitQuery.Json.Value
import CommitQuery.Text.Class
import CommitQuery.Text.Digits

namespace CommitQuery.Json

open CommitQuery.Text (digitsValue hexValue? isAsciiDigit)

/-! ## Tokens -/

/-- A token. A text with half of a pair in it is one without a string. -/
inductive Token
  | null
  | bool (b : Bool)
  | number (n : Number)
  | text (s? : Option String)
  | openArray
  | closeArray
  | openObject
  | closeObject
  | comma
  | colon
deriving DecidableEq, Repr

/-- The blanks that may stand between tokens. -/
def isBlank (c : Char) : Bool := c = ' ' || c = '\t' || c = '\n' || c = '\r'

/-- The value of four hexadecimal digits. -/
def hexValue4? (a b c d : Char) : Option Nat := do
  return (((← hexValue? a) * 16 + (← hexValue? b)) * 16 + (← hexValue? c)) * 16 + (← hexValue? d)

def isHighHalf (n : Nat) : Bool := 0xD800 ≤ n && n ≤ 0xDBFF

def isLowHalf (n : Nat) : Bool := 0xDC00 ≤ n && n ≤ 0xDFFF

/-- The character that a pair of halves stands for. -/
def joinHalves (high low : Nat) : Char :=
  Char.ofNat (0x10000 + (high - 0xD800) * 1024 + (low - 0xDC00))

/-- The character that a short escape stands for. -/
def shortEscape? : Char → Option Char
  | '"' => some '"'
  | '\\' => some '\\'
  | '/' => some '/'
  | 'b' => some '\x08'
  | 'f' => some '\x0c'
  | 'n' => some '\n'
  | 'r' => some '\r'
  | 't' => some '\t'
  | _ => none

/-- The code points and halves of pairs that a text holds up to its closing quote,
and what follows it. A bare control character makes no text. -/
def readQuoted : List Char → Option (List Nat × List Char)
  | '"' :: rest => some ([], rest)
  | '\\' :: 'u' :: a :: b :: c :: d :: rest => do
    let n ← hexValue4? a b c d
    let (units, after) ← readQuoted rest
    return (n :: units, after)
  | '\\' :: c :: rest => do
    let e ← shortEscape? c
    let (units, after) ← readQuoted rest
    return (e.toNat :: units, after)
  | c :: rest =>
    if c.toNat < 0x20 || c = '\\' then none
    else (readQuoted rest).map fun (units, after) => (c.toNat :: units, after)
  | [] => none

/-- The characters that units stand for, two halves in a row for one. Half of a pair
by itself stands for none. -/
def joinUnits : List Nat → Option (List Char)
  | [] => some []
  | [n] => if isHighHalf n || isLowHalf n then none else some [Char.ofNat n]
  | n :: m :: rest =>
    if isHighHalf n && isLowHalf m then (joinUnits rest).map (joinHalves n m :: ·)
    else if isHighHalf n || isLowHalf n then none
    else (joinUnits (m :: rest)).map (Char.ofNat n :: ·)

/-- The digits after a point, at least one. -/
def readPoint : List Char → Option (List Char × List Char)
  | '.' :: rest =>
    if (rest.takeWhile isAsciiDigit).isEmpty then none
    else some (rest.takeWhile isAsciiDigit, rest.dropWhile isAsciiDigit)
  | s => some ([], s)

/-- The sign and the digits of an exponent, at least one digit. -/
def readExponent : List Char → Option (List Char × List Char)
  | e :: rest =>
    if e = 'e' || e = 'E' then
      let (sign, s) := match rest with
        | '-' :: s => (['-'], s)
        | '+' :: s => ([], s)
        | s => ([], s)
      if (s.takeWhile isAsciiDigit).isEmpty then none
      else some (sign ++ s.takeWhile isAsciiDigit, s.dropWhile isAsciiDigit)
    else some ([], e :: rest)
  | [] => some ([], [])

/-- A number whose sign is read: the integer part starts with a zero only if it
is one digit long. -/
def readNumber (negative : Bool) (s : List Char) : Option (Number × List Char) := do
  let digits := match s with
    | '0' :: _ => ['0']
    | s => s.takeWhile isAsciiDigit
  if digits.isEmpty then none
  else
    let (point, s) ← readPoint (s.drop digits.length)
    let (exponent, s) ← readExponent s
    let whole := digitsValue digits
    if point.isEmpty && exponent.isEmpty then some (⟨negative, whole, none⟩, s)
    else some (⟨negative, whole, some ⟨point, exponent⟩⟩, s)

/-- The token that starts with `c` before `rest`, and the text after it. -/
def readToken (c : Char) (rest : List Char) : Option (Token × List Char) :=
  match c, rest with
  | '[', s => some (.openArray, s)
  | ']', s => some (.closeArray, s)
  | '\x7b', s => some (.openObject, s)
  | '\x7d', s => some (.closeObject, s)
  | ',', s => some (.comma, s)
  | ':', s => some (.colon, s)
  | 'n', 'u' :: 'l' :: 'l' :: s => some (.null, s)
  | 't', 'r' :: 'u' :: 'e' :: s => some (.bool true, s)
  | 'f', 'a' :: 'l' :: 's' :: 'e' :: s => some (.bool false, s)
  | '"', s => (readQuoted s).map fun (units, after) =>
    (.text ((joinUnits units).map String.ofList), after)
  | '-', s => (readNumber true s).map fun (n, after) => (.number n, after)
  | c, s =>
    if isAsciiDigit c then (readNumber false (c :: s)).map fun (n, after) => (.number n, after)
    else none

/-- The tokens of a text. A token is never empty, so `fuel` characters are enough
for a text that is no longer. -/
def tokensWithin : Nat → List Char → Option (List Token)
  | fuel, s =>
    match s.dropWhile isBlank, fuel with
    | [], _ => some []
    | _, 0 => none
    | c :: rest, fuel + 1 =>
      (readToken c rest).bind fun (t, after) => (tokensWithin fuel after).map (t :: ·)

def tokens (s : List Char) : Option (List Token) := tokensWithin s.length s

/-! ## Values -/

/-- An array or object that is open; items and fields are held last first. -/
inductive Frame
  | array (before : List Json)
  | object (before : List (Option String × Json)) (key : Option String)

/-- What the next token is read as. -/
inductive Stage
  | value
  | firstItem
  | firstKey
  | key (before : List (Option String × Json))
  | colon (before : List (Option String × Json)) (key : Option String)
  | after (value : Json)

structure Reader where
  stage : Stage
  frames : List Frame

def Reader.start : Reader := ⟨.value, []⟩

/-- The first token of a value. -/
def Reader.startValue (r : Reader) : Token → Option Reader
  | .null => some { r with stage := .after .null }
  | .bool b => some { r with stage := .after (.bool b) }
  | .number n => some { r with stage := .after (.number n) }
  | .text (some s) => some { r with stage := .after (.text s) }
  | .text none => some { r with stage := .after .illFormed }
  | .openArray => some { r with stage := .firstItem }
  | .openObject => some { r with stage := .firstKey }
  | _ => none

/-- A token after a whole value, which is an item or a field of what is open. -/
def Reader.afterValue (value : Json) : List Frame → Token → Option Reader
  | .array before :: frames, .comma => some ⟨.value, .array (value :: before) :: frames⟩
  | .array before :: frames, .closeArray =>
    some ⟨.after (.array (value :: before).reverse), frames⟩
  | .object before key :: frames, .comma => some ⟨.key ((key, value) :: before), frames⟩
  | .object before key :: frames, .closeObject =>
    some ⟨.after (.ofKeyed ((key, value) :: before).reverse), frames⟩
  | _, _ => none

/-- The reader after one more token, if the token fits. -/
def Reader.read (r : Reader) (token : Token) : Option Reader :=
  match r.stage, token with
  | .value, token => r.startValue token
  | .firstItem, .closeArray => some { r with stage := .after (.array []) }
  | .firstItem, token => Reader.startValue ⟨.value, .array [] :: r.frames⟩ token
  | .firstKey, .closeObject => some { r with stage := .after (.object []) }
  | .firstKey, .text s => some { r with stage := .colon [] s }
  | .key before, .text s => some { r with stage := .colon before s }
  | .colon before key, .colon => some ⟨.value, .object before key :: r.frames⟩
  | .after value, token => Reader.afterValue value r.frames token
  | _, _ => none

/-- The value that a text writes, if it writes exactly one. -/
def parse (s : String) : Option Json := do
  let r ← (← tokens s.toList).foldlM Reader.read Reader.start
  match r with
  | ⟨.after value, []⟩ => some value
  | _ => none

end CommitQuery.Json
