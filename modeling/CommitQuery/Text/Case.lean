-- Lower and upper case of whole texts, after the full case mappings of Unicode:
-- one character may turn into several, and a capital sigma that ends a word
-- turns into the final sigma.
import CommitQuery.Text.CaseTable
import CommitQuery.Text.Class

namespace CommitQuery.Text

/-- The image of a code point under a list of runs, if one of them holds it. -/
def CaseRun.find (runs : List CaseRun) (n : Nat) : Option Char :=
  (runs.find? fun r =>
      decide (r.first ≤ n) && decide (n ≤ r.last) && decide ((n - r.first) % r.step = 0)).map
    fun r => Char.ofNat (Int.toNat (n + r.shift))

/-- The full mapping of one character: several characters from the list of
expansions, else one from the runs, else the character itself. -/
def mapCase (runs : List CaseRun) (expansions : List (Nat × List Nat)) (c : Char) : List Char :=
  match expansions.find? (·.1 == c.toNat) with
  | some (_, image) => image.map Char.ofNat
  | none => [(CaseRun.find runs c.toNat).getD c]

/-- The lower case of one character, wherever it stands. -/
def lowerChar (c : Char) : List Char :=
  if c.toNat < 128 then [asciiLower c] else mapCase lowerRuns lowerExpansions c

/-- The upper case of one character. -/
def upperChar (c : Char) : List Char :=
  if c.toNat < 128 then [asciiUpper c] else mapCase upperRuns upperExpansions c

def isCased (c : Char) : Bool :=
  if c.toNat < 128 then isAsciiLetter c else casedRanges.contains c

def isCaseIgnorable (c : Char) : Bool := caseIgnorableRanges.contains c

/-- Whether the first character that is not case-ignorable is a cased one. -/
def cased? (s : List Char) : Bool := ((s.dropWhile isCaseIgnorable).head?.map isCased).getD false

/-- A capital sigma ends its word if a cased letter comes before it and none
comes after it. `before` is the text before it, nearest character first. -/
def endsWord (before after : List Char) : Bool := cased? before && !cased? after

/-- The lower case of the rest of a text, given what came before, nearest first. -/
def lowerFrom (before : List Char) : List Char → List Char
  | [] => []
  | c :: rest =>
    (if c = 'Σ' then [if endsWord before rest then 'ς' else 'σ'] else lowerChar c) ++
      lowerFrom (c :: before) rest

/-- The lower case of a text. -/
def lowerList (s : List Char) : List Char := lowerFrom [] s

/-- The upper case of a text. -/
def upperList (s : List Char) : List Char := s.flatMap upperChar

def lowercase (s : String) : String := String.ofList (lowerList s.toList)

def uppercase (s : String) : String := String.ofList (upperList s.toList)

end CommitQuery.Text
