-- Reading TOML documents: keys, values, and the statements of a document.
import CommitQuery.Toml.Scan
import CommitQuery.Toml.Value

namespace CommitQuery.Toml

namespace Scan

/-- How deep arrays and tables in braces may stand in each other, and of how many
parts a key may be. -/
def deepest : Nat := 79

/-! ## Keys -/

def isKeyChar (c : Char) : Bool :=
  ('A' ≤ c && c ≤ 'Z') || ('a' ≤ c && c ≤ 'z') || ('0' ≤ c && c ≤ '9') || c = '-' || c = '_'

/-- One part of a key. -/
def keyPart : Scan String := do
  let s ← basicString <|> literalString <|> do
    let first ← one isKeyChar
    return first :: (← span isKeyChar)
  return String.ofList s

/-- A key: the parts before the last one, and the last one. -/
def key : Scan (List String × String) := do
  let parts ← separated (char '.') (do
    space
    let part ← keyPart
    space
    return part)
  match parts.getLast? with
  | some last => if parts.length ≤ deepest then return (parts.dropLast, last) else failure
  | none => failure

/-! ## Values -/

/-- A value that holds no others. -/
def scalar : Scan Toml :=
  (do return .text (← string)) <|>
  (do return .moment (← spelled moment).2) <|>
  (do return .float (← spelled float).2) <|>
  (do return .integer (← integer)) <|>
  (do literally "true".toList; return .bool true) <|>
  (do literally "false".toList; return .bool false)

/-- An array of the given values. -/
def array (value : Scan Toml) : Scan Toml := do
  char '['
  let items ← optional (do
    let items ← separated (char ',') (do
      gap
      let v ← value
      gap
      return v)
    discard (optional (char ','))
    return items)
  gap
  char ']'
  return .array (items.getD [])

/-- A key and its value. -/
def pair (value : Scan Toml) : Scan (List String × String × Toml) := do
  let (path, last) ← key
  char '='
  space
  return (path, last, ← value)

/-- A table in braces. -/
def braces (value : Scan Toml) : Scan Toml := do
  char '\x7b'
  let pairs ← optional (separated (char ',') (do
    let p ← pair value
    space
    return p))
  space
  char '\x7d'
  let entries ← (pairs.getD []).foldlM (fun entries (path, last, v) =>
    match assign path last v .header entries with
    | some entries => pure entries
    | none => failure) []
  return .closed entries

/-- A value with at most so many arrays and tables around its parts. -/
def value : Nat → Scan Toml
  | 0 => scalar
  | depth + 1 => array (value depth) <|> braces (value depth) <|> scalar

/-! ## Documents -/

/-- A header between brackets. -/
def header : Scan Statement := do
  let statement ← (do
      literally ['[', '[']
      let (path, last) ← key
      literally [']', ']']
      return .nextTable path last) <|>
    (do
      char '['
      let (path, last) ← key
      char ']'
      return .table path last)
  lineEnd
  return statement

/-- A line of a document: a statement, or nothing but a comment. -/
def line : Scan (Option Statement) := do
  let statement ← (do return some (← header)) <|>
    (do
      let (path, last, v) ← pair (value deepest)
      lineEnd
      return some (.assign path last v)) <|>
    (do
      comment
      newline <|> atEnd
      return none) <|>
    (do
      newline
      return none)
  space
  return statement

/-- The statements of a document. A byte order mark in front does not count. -/
def statements : Scan (List Statement) := do
  discard (optional (char '\ufeff'))
  space
  let list ← many line
  atEnd
  return list.filterMap id

end Scan

/-- The entries of a document, or none if the text is not one. -/
def parse (text : String) : Option Entries := do
  let (list, _) ← Scan.statements.run text.toList
  Document.ofStatements list

end CommitQuery.Toml
