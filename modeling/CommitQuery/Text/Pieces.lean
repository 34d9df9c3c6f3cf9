-- Cutting texts: lines, pieces between separators, and the first place where
-- one text occurs in another.
import CommitQuery.Text.Class

namespace CommitQuery.Text

/-! ## Lines -/

/-- A line without the carriage return right before its end. The line is held
last character first. -/
def dropReturn : List Char → List Char
  | '\r' :: rest => rest
  | line => line

/-- The lines of a text, given the characters of the current line last first. -/
def linesFrom (line : List Char) : List Char → List (List Char)
  | [] => if line.isEmpty then [] else [line.reverse]
  | c :: rest =>
    if c = '\n' then (dropReturn line).reverse :: linesFrom [] rest else linesFrom (c :: line) rest

/-- The lines of a text. A newline ends a line and takes the carriage return
before it along; a last line need not be ended. -/
def lines (s : List Char) : List (List Char) := linesFrom [] s

/-! ## Pieces -/

/-- The text before the first separator, and the text after it if there is one. -/
def cutAt (separator : Char) : List Char → List Char × Option (List Char)
  | [] => ([], none)
  | c :: rest =>
    if c = separator then ([], some rest)
    else let (before, after) := cutAt separator rest; (c :: before, after)

/-- The pieces between the separators, one more than there are separators. -/
def pieces (separator : Char) : List Char → List (List Char)
  | [] => [[]]
  | c :: rest =>
    if c = separator then [] :: pieces separator rest
    else match pieces separator rest with
      | [] => [[c]]
      | piece :: more => (c :: piece) :: more

/-- The first `count` pieces, the last of which keeps all separators in it. -/
def piecesUpTo (separator : Char) : Nat → List Char → List (List Char)
  | 0, _ => []
  | 1, s => [s]
  | count + 2, s =>
    match cutAt separator s with
    | (piece, none) => [piece]
    | (piece, some rest) => piece :: piecesUpTo separator (count + 1) rest

/-! ## Occurrences -/

/-- Whether `needle` occurs in a text, in one piece. -/
def containsList (needle : List Char) : List Char → Bool
  | [] => needle.isEmpty
  | c :: rest => needle.isPrefixOf (c :: rest) || containsList needle rest

/-- The text before the first occurrence of `needle`, and the text after it. -/
def splitFirst (needle : List Char) : List Char → Option (List Char × List Char)
  | [] => if needle.isEmpty then some ([], []) else none
  | c :: rest =>
    if needle.isPrefixOf (c :: rest) then some ([], (c :: rest).drop needle.length)
    else (splitFirst needle rest).map fun (before, after) => (c :: before, after)

/-- The text before the last occurrence of `needle`, and the text after it. -/
def splitLast (needle : List Char) : List Char → Option (List Char × List Char)
  | [] => if needle.isEmpty then some ([], []) else none
  | c :: rest =>
    match splitLast needle rest with
    | some (before, after) => some (c :: before, after)
    | none =>
      if needle.isPrefixOf (c :: rest) then some ([], (c :: rest).drop needle.length) else none

/-- The rest of a text after a given beginning. -/
def afterStart? (start s : List Char) : Option (List Char) :=
  if start.isPrefixOf s then some (s.drop start.length) else none

/-- The beginning of a text before a given ending. -/
def beforeEnd? (ending s : List Char) : Option (List Char) :=
  if ending.isSuffixOf s then some (s.take (s.length - ending.length)) else none

/-- Whether a text contains another one. -/
def contains (s needle : String) : Bool := containsList needle.toList s.toList

/-- Texts written one after the other with a separator in between. -/
def joinWith (separator : String) : List String → String
  | [] => ""
  | [s] => s
  | s :: rest => s ++ separator ++ joinWith separator rest

/-! ## Measures -/

/-- The sum of some numbers. -/
def total : List Nat → Nat
  | [] => 0
  | n :: rest => n + total rest

/-- Bytes of a text in UTF-8. -/
def utf8Length (s : List Char) : Nat := total (s.map Char.utf8Size)

/-- The first `count` bytes of a text and what follows them, if they are whole characters. -/
def splitBytes? (count : Nat) : List Char → Option (List Char × List Char)
  | [] => if count = 0 then some ([], []) else none
  | c :: rest =>
    if count = 0 then some ([], c :: rest)
    else if c.utf8Size ≤ count then
      (splitBytes? (count - c.utf8Size) rest).map fun (before, after) => (c :: before, after)
    else none

/-- A text of `count` equal characters. -/
def repeated (count : Nat) (c : Char) : String := String.ofList (List.replicate count c)

/-! ## Filling -/

/-- A text with spaces behind it, at least `width` characters. -/
def fillEnd (width : Nat) (s : String) : String := s ++ repeated (width - s.toList.length) ' '

/-- A text with spaces in front of it, at least `width` characters. -/
def fillStart (width : Nat) (s : String) : String := repeated (width - s.toList.length) ' ' ++ s

end CommitQuery.Text
