-- JSON text over several lines: two more spaces for each level, one item or
-- field to a line, and empty arrays and objects without a break.
import CommitQuery.Json.Value

namespace CommitQuery.Json

/-- A hexadecimal digit, in small letters. -/
def hexDigit (n : Nat) : Char := if n < 10 then Char.ofNat (48 + n) else Char.ofNat (87 + n)

/-- One character of a text: quotes, backslashes and controls are escaped. -/
def escapeChar (c : Char) : List Char :=
  if c = '"' then ['\\', '"']
  else if c = '\\' then ['\\', '\\']
  else if c = '\x08' then ['\\', 'b']
  else if c = '\t' then ['\\', 't']
  else if c = '\n' then ['\\', 'n']
  else if c = '\x0c' then ['\\', 'f']
  else if c = '\r' then ['\\', 'r']
  else if c.toNat < 0x20 then
    ['\\', 'u', '0', '0', hexDigit (c.toNat / 16), hexDigit (c.toNat % 16)]
  else [c]

/-- A text in double quotes. -/
def writeText (s : String) : List Char := '"' :: s.toList.flatMap escapeChar ++ ['"']

def writeNumber (n : Number) : List Char :=
  (if n.negative then ['-'] else []) ++ (toString n.whole).toList ++
    match n.fraction? with
    | none => []
    | some f =>
      (if f.digits.isEmpty then [] else '.' :: f.digits) ++
        (if f.exponent.isEmpty then [] else 'e' :: f.exponent)

/-- A new line at some level. -/
def newline (level : Nat) : List Char := '\n' :: List.replicate (2 * level) ' '

mutual

/-- A value whose first line stands at some level. -/
def write (level : Nat) : Json → List Char
  | .null | .illFormed => "null".toList
  | .bool true => "true".toList
  | .bool false => "false".toList
  | .number n => writeNumber n
  | .text s => writeText s
  | .array [] => "[]".toList
  | .array (item :: more) =>
    '[' :: newline (level + 1) ++ write (level + 1) item ++ writeItems (level + 1) more ++
      newline level ++ [']']
  | .object [] => ['\x7b', '\x7d']
  | .object ((key, value) :: more) =>
    '\x7b' :: newline (level + 1) ++ writeText key ++ ": ".toList ++ write (level + 1) value ++
      writeFields (level + 1) more ++ newline level ++ ['\x7d']

/-- The items of an array after its first one. -/
def writeItems (level : Nat) : List Json → List Char
  | [] => []
  | item :: more => ',' :: newline level ++ write level item ++ writeItems level more

/-- The fields of an object after its first one. -/
def writeFields (level : Nat) : List (String × Json) → List Char
  | [] => []
  | (key, value) :: more =>
    ',' :: newline level ++ writeText key ++ ": ".toList ++ write level value ++
      writeFields level more

end

/-- The text of a value. -/
def toText (j : Json) : String := String.ofList (write 0 j)

end CommitQuery.Json
