-- Reading timestamps. Commits hold the strict form of RFC 3339; files of the
-- program may hold a looser one, with blanks between the parts and a year of
-- any length.
import CommitQuery.Text.Digits
import CommitQuery.Text.Pieces
import CommitQuery.Time.Timestamp

namespace CommitQuery.Timestamp

open CommitQuery.Text

/-- Why a text is no timestamp. -/
inductive BadTime
  | outOfRange
  | tooShort
  | badCharacter
  | tooLong
deriving DecidableEq, Repr

def BadTime.message : BadTime → String
  | .outOfRange => "input is out of range"
  | .tooShort => "premature end of input"
  | .badCharacter => "input contains invalid characters"
  | .tooLong => "trailing input"

/-- A step of reading: what it reads, and the text after it. -/
abbrev Step (α : Type) := List Char → Except BadTime (α × List Char)

/-! ## Parts of both forms -/

/-- One character that has to stand there. -/
def expect (c : Char) : Step Unit
  | d :: rest => if d = c then .ok ((), rest) else .error .badCharacter
  | [] => .error .tooShort

/-- Two digits that have to stand there. -/
def twoDigits : Step Nat
  | a :: b :: rest =>
    if isAsciiDigit a && isAsciiDigit b then .ok (10 * digitValue a + digitValue b, rest)
    else .error .badCharacter
  | [a] => if a.toNat < 128 then .error .tooShort else .error .badCharacter
  | [] => .error .tooShort

/-- The digits of a fraction of a second, in nanoseconds: at least one, of which
those after the ninth do not count. -/
def fraction : Step Nat
  | [] => .error .tooShort
  | c :: rest =>
    if isAsciiDigit c then
      let digits := c :: rest.takeWhile isAsciiDigit
      .ok (digitsValue (digits.take 9) * Nat.pow 10 (9 - digits.length),
        rest.dropWhile isAsciiDigit)
    else .error .badCharacter

/-- The fraction after a point, or no fraction. -/
def optionalFraction : Step Nat
  | '.' :: rest => fraction rest
  | s => .ok (0, s)

/-- The minutes of an offset. -/
def offsetMinutes : Step Nat
  | a :: b :: rest =>
    if isAsciiDigit a && isAsciiDigit b then
      if digitValue a < 6 then .ok (10 * digitValue a + digitValue b, rest)
      else .error .outOfRange
    else .error .badCharacter
  | [a] => if a.toNat < 128 then .error .tooShort else .error .badCharacter
  | [] => .error .tooShort

/-- An offset in seconds. `separator` reads what stands between its two numbers. -/
def offsetWith (separator : Step Unit) : Step Int
  | [] => .error .tooShort
  | c :: rest =>
    if c = 'Z' || c = 'z' then .ok (0, rest)
    else if c = '+' || c = '-' || c = '\u2212' then do
      let (hours, s) ← twoDigits rest
      let ((), s) ← separator s
      let (minutes, s) ← offsetMinutes s
      let seconds : Int := (hours * 3600 + minutes * 60 : Nat)
      return (if c = '+' then seconds else -seconds, s)
    else .error .badCharacter

/-- Second 60 is the leap second after second 59. -/
def leapSecond (second : Nat) : Nat × Nat :=
  if second = 60 then (59, 1000000000) else (second, 0)

/-- Whether a clock shows this time of day. A leap second comes after second 59 only. -/
def isTimeOfDay (hour minute second nanos : Nat) : Bool :=
  hour < 24 && minute < 60 && second < 60 && (nanos < 1000000000 || second = 59)

/-! ## The strict form -/

/-- The date of the strict form. -/
def strictDate : Step Date := fun s => do
  let (century, s) ← twoDigits s
  let (year, s) ← twoDigits s
  let ((), s) ← expect '-' s
  let (month, s) ← twoDigits s
  let ((), s) ← expect '-' s
  let (day, s) ← twoDigits s
  let date : Date := ⟨(100 * century + year : Nat), month, day⟩
  if date.isValid then .ok (date, s) else .error .outOfRange

/-- The separator between date and time. -/
def dateEnd : Step Unit
  | c :: rest => if c = 'T' || c = 't' || c = ' ' then .ok ((), rest) else .error .badCharacter
  | [] => .error .tooShort

/-- Bytes of the part of the strict form whose length is fixed. -/
def fixedLength : Nat := 19

/-- A timestamp in the strict form, with nothing after it. -/
def read (text : String) : Except BadTime Timestamp := do
  if utf8Length text.toList < fixedLength then .error .tooShort
  else
    let (date, s) ← strictDate text.toList
    let ((), s) ← dateEnd s
    let (hour, s) ← twoDigits s
    let ((), s) ← expect ':' s
    let (minute, s) ← twoDigits s
    let ((), s) ← expect ':' s
    let (written, s) ← twoDigits s
    let (second, leap) := leapSecond written
    let (nanos, s) ← optionalFraction s
    if !isTimeOfDay hour minute second (leap + nanos) then .error .outOfRange
    else
      let (offset, s) ← offsetWith (expect ':') s
      if !s.isEmpty then .error .tooLong
      else if offset.natAbs ≥ 86400 then .error .outOfRange
      else .ok ⟨date, hour, minute, second, leap + nanos, offset⟩

/-! ## The loose form -/

/-- A number of at most `width` digits, after blanks. -/
def looseNumber (width : Nat) : Step Nat := fun s =>
  let s := trimStart s
  let digits := (s.take width).takeWhile isAsciiDigit
  if digits.isEmpty then .error .badCharacter
  else .ok (digitsValue digits, s.drop digits.length)

/-- A year: four digits at most, or any number of them after a sign. -/
def looseYear : Step Int := fun s =>
  match trimStart s with
  | '-' :: rest => do
    let digits := rest.takeWhile isAsciiDigit
    if digits.isEmpty then .error .badCharacter
    else .ok (-(digitsValue digits : Int), rest.drop digits.length)
  | '+' :: rest => do
    let digits := rest.takeWhile isAsciiDigit
    if digits.isEmpty then .error .badCharacter
    else .ok ((digitsValue digits : Int), rest.drop digits.length)
  | rest => do
    let (year, s) ← looseNumber 4 rest
    return ((year : Int), s)

/-- Years that a file may name, on the clock it names and on that of UTC. -/
def isKnownYear (year : Int) : Bool := -262143 ≤ year && year ≤ 262142

/-- The separator of the loose offset: colons and blanks, or nothing. -/
def looseSeparator : Step Unit := fun s => .ok ((), s.dropWhile fun c => c = ':' || isBlank c)

/-- The offset of the loose form; the letters UTC stand for none. -/
def looseOffset : Step Int
  | a :: b :: c :: rest =>
    if asciiUpper a = 'U' && asciiUpper b = 'T' && asciiUpper c = 'C' then .ok (0, rest)
    else offsetWith looseSeparator (a :: b :: c :: rest)
  | s => offsetWith looseSeparator s

/-- A timestamp in the loose form. -/
def readLoose (text : String) : Except BadTime Timestamp := do
  let (year, s) ← looseYear text.toList
  let ((), s) ← expect '-' (trimStart s)
  let (month, s) ← looseNumber 2 s
  let ((), s) ← expect '-' (trimStart s)
  let (day, s) ← looseNumber 2 s
  let ((), s) ← dateEnd s
  let (hour, s) ← looseNumber 2 s
  let ((), s) ← expect ':' (trimStart s)
  let (minute, s) ← looseNumber 2 s
  let ((), s) ← expect ':' (trimStart s)
  let (written, s) ← looseNumber 2 s
  let (second, leap) := leapSecond written
  let (nanos, s) ← optionalFraction s
  let (offset, s) ← looseOffset (trimStart s)
  let date : Date := ⟨year, month, day⟩
  if !(trimStart s).isEmpty then .error .tooLong
  else if !(date.isValid && isKnownYear year && isTimeOfDay hour minute second (leap + nanos)) then
    .error .outOfRange
  else if offset.natAbs ≥ 86400 then .error .outOfRange
  else
    let time : Timestamp := ⟨date, hour, minute, second, leap + nanos, offset⟩
    if isKnownYear (time.atOffset 0).date.year then .ok time else .error .outOfRange

/-- A timestamp in the loose form, on the clock of UTC. -/
def readUtc? (text : String) : Option Timestamp :=
  ((readLoose text).toOption).map (·.atOffset 0)

end CommitQuery.Timestamp
