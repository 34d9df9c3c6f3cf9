-- The classes of characters that queries, log records and commands are cut by.
-- An ASCII character is decided by its own rule, every other one by the table
-- of its Unicode property.
import CommitQuery.Text.Alphabetic

namespace CommitQuery.Text

/-- Code points with the property White_Space. -/
def blankRanges : CodeRanges := [
  (0x0009, 0x000D), (0x0020, 0x0020), (0x0085, 0x0085), (0x00A0, 0x00A0), (0x1680, 0x1680),
  (0x2000, 0x200A), (0x2028, 0x2029), (0x202F, 0x202F), (0x205F, 0x205F), (0x3000, 0x3000)]

/-- White space: what separates tokens and what trimming takes off. -/
def isBlank (c : Char) : Bool := blankRanges.contains c

def isAsciiDigit (c : Char) : Bool := '0' ≤ c && c ≤ '9'

def isAsciiLetter (c : Char) : Bool := ('a' ≤ c && c ≤ 'z') || ('A' ≤ c && c ≤ 'Z')

/-- A letter of any script: what a name may start with. -/
def isLetter (c : Char) : Bool :=
  if c.toNat < 128 then isAsciiLetter c else alphabeticRanges.contains c

/-- A letter or a numeral of any script: what a name may go on with. -/
def isLetterOrNumeral (c : Char) : Bool :=
  if c.toNat < 128 then isAsciiLetter c || isAsciiDigit c
  else alphabeticRanges.contains c || numericRanges.contains c

/-! ## Trimming -/

/-- The text from its first character that is not blank on. -/
def trimStart (s : List Char) : List Char := s.dropWhile isBlank

/-- The text up to its last character that is not blank. -/
def trimEnd (s : List Char) : List Char := (s.reverse.dropWhile isBlank).reverse

/-- The text without the blanks at both of its ends. -/
def trim (s : String) : String := String.ofList (trimEnd (trimStart s.toList))

/-! ## ASCII case -/

/-- The small letter of a capital ASCII letter; every other character is itself. -/
def asciiLower (c : Char) : Char := if 'A' ≤ c && c ≤ 'Z' then Char.ofNat (c.toNat + 32) else c

/-- The capital letter of a small ASCII letter; every other character is itself. -/
def asciiUpper (c : Char) : Char := if 'a' ≤ c && c ≤ 'z' then Char.ofNat (c.toNat - 32) else c

/-- A text with its capital ASCII letters made small. -/
def asciiLowercase (s : String) : String := String.ofList (s.toList.map asciiLower)

/-- Equality of two texts up to the case of ASCII letters. -/
def equalsIgnoringAsciiCase (s t : String) : Bool :=
  s.toList.map asciiLower == t.toList.map asciiLower

end CommitQuery.Text
