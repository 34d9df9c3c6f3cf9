-- A text between double quotes, with every character that would not show on a
-- line written as an escape.
import CommitQuery.Text.Pieces
import CommitQuery.Text.Unprintable

namespace CommitQuery.Text

/-- Whether a character has no glyph of its own: it is not printable, it attaches to
the character before it, or it only fills a place. -/
def isHidden (c : Char) : Bool :=
  if c.toNat < 127 then decide (c.toNat < 32)
  else attachingMarkRanges.contains c || fillerRanges.contains c || unprintableRanges.contains c

/-- The hexadecimal digits of a number, in small letters. -/
def hexDigits (n : Nat) : List Char := Nat.toDigits 16 n

/-- One character between the quotes. -/
def escapeChar (c : Char) : List Char :=
  if c = '\x00' then ['\\', '0']
  else if c = '\t' then ['\\', 't']
  else if c = '\r' then ['\\', 'r']
  else if c = '\n' then ['\\', 'n']
  else if c = '\\' || c = '"' then ['\\', c]
  else if isHidden c then "\\u\x7b".toList ++ hexDigits c.toNat ++ ['\x7d']
  else [c]

/-- A text in double quotes; its quotes, backslashes and hidden characters are escaped. -/
def quoted (s : String) : String :=
  String.ofList ('"' :: s.toList.flatMap escapeChar ++ ['"'])

end CommitQuery.Text
