-- Writing TOML strings. A string is written in the first of five forms that can
-- hold it; all but the last two need no escape.
import CommitQuery.Text.Pieces

namespace CommitQuery.Toml

/-- The most `c` in a row in a text; `run` of them stand right before it. -/
def longestRun (c : Char) (run : Nat) : List Char → Nat
  | [] => run
  | d :: rest => if d = c then longestRun c (run + 1) rest else max run (longestRun c 0 rest)

/-- A control character that only an escape can write. -/
def needsEscape (c : Char) : Bool := (c < ' ' && c ≠ '\t' && c ≠ '\n') || c = '\x7f'

def hexDigit (n : Nat) : Char := (Nat.digitChar n).toUpper

/-- An escape by the code of an ASCII character. -/
def codeEscape (c : Char) : List Char :=
  ['\\', 'u', '0', '0', hexDigit (c.toNat / 16), hexDigit (c.toNat % 16)]

/-- A character inside quotes with escapes. -/
def escapeChar (c : Char) : List Char :=
  match c with
  | '\x08' => ['\\', 'b']
  | '\t' => ['\\', 't']
  | '\n' => ['\\', 'n']
  | '\x0c' => ['\\', 'f']
  | '\r' => ['\\', 'r']
  | '\\' => ['\\', '\\']
  | '"' => ['\\', '"']
  | c => if needsEscape c then codeEscape c else [c]

/-- A text between double quotes. -/
def basicText (s : List Char) : List Char := '"' :: s.flatMap escapeChar ++ ['"']

/-- A text between single quotes. -/
def literalText (s : List Char) : List Char := '\'' :: s ++ ['\'']

/-- The characters of a text of many lines: newlines stay, and so do double quotes
but for each third one in a row. `run` of them stand right before the text. -/
def escapeLines (run : Nat) : List Char → List Char
  | [] => []
  | c :: rest =>
    if c = '\n' then '\n' :: escapeLines 0 rest
    else if c = '"' then
      if run < 2 then '"' :: escapeLines (run + 1) rest else escapeChar '"' ++ escapeLines 0 rest
    else escapeChar c ++ escapeLines 0 rest

/-- A text between three quotes, on a line of its own if it has more than one. -/
def manyLinesText (quote : Char) (text content : List Char) : List Char :=
  List.replicate 3 quote ++ (if text.contains '\n' then ['\n'] else []) ++ content ++
    List.replicate 3 quote

/-- The form that a text is written in. -/
def stringText (s : List Char) : List Char :=
  let controls := s.any needsEscape
  let newline := s.contains '\n'
  let backslash := s.contains '\\'
  let doubles := longestRun '"' 0 s
  let singles := longestRun '\'' 0 s
  if !controls && !backslash && doubles = 0 && !newline then basicText s
  else if !controls && singles = 0 && !newline then literalText s
  else if !controls && !backslash && doubles ≤ 2 then manyLinesText '"' s (escapeLines 0 s)
  else if !controls && singles ≤ 2 then manyLinesText '\'' s s
  else if newline then manyLinesText '"' s (escapeLines 0 s)
  else basicText s

end CommitQuery.Toml
