-- Completion at the prompt. The text before the cursor is seldom a whole query,
-- so the type in front of a dot is recovered by walking back through members,
-- calls and lambda parameters, and looked up in the schema.
import CommitQuery.Plan.Compile
import CommitQuery.Prompt.Command

namespace CommitQuery

open CommitQuery.Text

variable {κ ρ : Type}

/-- What completion knows: the schema and the root collection. -/
structure Completion (κ ρ : Type) where
  schema : Schema κ ρ
  rootName : String
  rootType : ValueType κ

namespace Completion

/-! ## Reading text backwards -/

def isWordChar (c : Char) : Bool := isLetterOrNumeral c || c = '_'

/-- The word at the end of a text. -/
def lastWord (text : List Char) : List Char := (text.reverse.takeWhile isWordChar).reverse

/-- The text before the word at its end. -/
def beforeWord (text : List Char) : List Char := (text.reverse.dropWhile isWordChar).reverse

/-- The text before a dot that ends it. -/
def beforeDot? (text : List Char) : Option (List Char) := beforeEnd? ['.'] text

/-- A text without the characters of a kind at its end. -/
def dropEnd (drop : Char → Bool) (text : List Char) : List Char :=
  (text.reverse.dropWhile drop).reverse

/-- The text before the parenthesis that the last closing one belongs to. The text
is given last character first; parentheses between quotes do not count. -/
def beforeOpening? (depth : Nat) (quote : Option Char) : List Char → Option (List Char)
  | [] => none
  | c :: rest =>
    match quote with
    | some q => beforeOpening? depth (if c = q then none else some q) rest
    | none =>
      if c = '"' || c = '\'' then beforeOpening? depth (some c) rest
      else if c = ')' then beforeOpening? (depth + 1) none rest
      else if c = '(' then
        match depth with
        | 0 => none
        | 1 => some rest
        | depth + 2 => beforeOpening? (depth + 1) none rest
      else beforeOpening? depth none rest

/-- The text before the parenthesis that opens the arguments at the end of a text. -/
def beforeArguments? (text : List Char) : Option (List Char) :=
  (beforeOpening? 0 none text.reverse).map List.reverse

/-- The text before each arrow. `seen` is the text so far, last character first. -/
def beforeArrows (seen : List Char) : List Char → List (List Char)
  | [] => []
  | '=' :: '>' :: rest => seen.reverse :: beforeArrows ('>' :: '=' :: seen) rest
  | c :: rest => beforeArrows (c :: seen) rest

/-- The word in front of an arrow, and the text before it. -/
def arrowParameter (text : List Char) : List Char × List Char :=
  let text := dropEnd (· = ')') (trimEnd text)
  (beforeWord text, lastWord text)

/-- The words in front of the arrows of a text, each with the text before it. -/
def parameters (text : List Char) : List (List Char × List Char) :=
  (beforeArrows [] text).map arrowParameter

/-- The text before the last binding of a parameter. -/
def beforeBinding? (text parameter : List Char) : Option (List Char) :=
  ((parameters text).filter (·.2 = parameter)).getLast?.map (·.1)

/-! ## Types in front of a dot -/

variable (c : Completion κ ρ)

/-- The type of what a call of a method gives. The operators that make a sequence
of other items are not followed. -/
def callType? (receiver : ValueType κ) (method : String) : Option (ValueType κ) :=
  let ofOperator : Option (ValueType κ) :=
    match receiver, SequenceOperator.ofName? method with
    | .sequence _, some .filter | .sequence _, some (.sort _) | .sequence _, some (.slice _) =>
      some receiver
    | .sequence element, some (.find .first) | .sequence element, some (.find .firstOrDefault) =>
      some element
    | _, _ => none
  ofOperator.or
    (((c.schema.methodsOf receiver).find? fun m => equalsIgnoringAsciiCase m.name method).map
      (·.returns))

/-- How many links of a chain are followed back. -/
def maxLinks : Nat := 33

/-- The type of the expression at the end of `text`, which is the beginning of `line`. -/
def receiverType? (line : List Char) : Nat → List Char → Option (ValueType κ)
  | 0, _ => none
  | links + 1, text =>
    let text := trimEnd text
    if text.getLast? = some ')' then do
      let text ← beforeArguments? text
      let receiver ← receiverType? line links (← beforeDot? (beforeWord text))
      c.callType? receiver (String.ofList (lastWord text))
    else if (lastWord text).isEmpty then none
    else match beforeDot? (beforeWord text) with
      | some text' => do
        let receiver ← receiverType? line links text'
        return (← c.schema.findMember? receiver (String.ofList (lastWord text))).type
      | none =>
        if String.ofList (lastWord text) = c.rootName then some c.rootType
        else match links with
          | 0 => none
          | links + 1 => do
            let before ← beforeBinding? line (lastWord text)
            let operator := dropEnd (fun c => c = '(' || c = ' ') (trimEnd before)
            let receiver ← receiverType? line links (← beforeDot? (beforeWord operator))
            receiver.element?

/-! ## Candidates -/

/-- A name that completion offers, what it writes and what it shows beside the name. -/
structure Candidate where
  name : String
  replacement : String
  detail : String
deriving DecidableEq, Repr

/-- A name that is written as it is. -/
def Candidate.word (name : String) : Candidate := ⟨name, name, ""⟩

/-- How many characters the name of a candidate is filled up to. -/
def nameWidth : Nat := 20

/-- A candidate as it is shown. -/
def Candidate.shown (candidate : Candidate) : String :=
  if candidate.detail.isEmpty then candidate.name
  else fillEnd nameWidth candidate.name ++ " " ++ candidate.detail

/-- What can follow a dot after an expression of a type. -/
def membersOf (type : ValueType κ) : List Candidate :=
  (match type with
    | .sequence _ => SequenceOperator.all.map fun op => ⟨op.name, op.name ++ "(", "operator"⟩
    | _ => []) ++
  (c.schema.membersOf type).map (fun m => ⟨m.name, m.name, c.schema.typeName m.type⟩) ++
  (c.schema.methodsOf type).map fun m => ⟨m.name, m.name ++ "(", c.schema.signature m⟩

/-- The first candidate of each name. -/
def distinct : List Candidate → List Candidate
  | [] => []
  | candidate :: rest => candidate :: (distinct rest).filter (·.name ≠ candidate.name)

/-- The candidates whose names start with what was typed, whatever its case. -/
def matching (candidates : List Candidate) (typed : List Char) : List Candidate :=
  distinct (candidates.filter fun candidate =>
    (lowerList typed).isPrefixOf (lowerList candidate.name.toList))

/-- The candidates where a text of the query does not follow a dot. -/
def words (before : List Char) : List Candidate :=
  (if (trimStart before).isEmpty then Command.offered.map fun (name, _) => .word name else []) ++
  .word c.rootName ::
    ((parameters before).filter fun (_, word) => !word.isEmpty).map
      fun (_, word) => .word (String.ofList word)

/-- The candidates for the word at the end of a text. -/
def candidates (text : List Char) : List Candidate :=
  let before := beforeWord text
  let offered := match beforeDot? before with
    | some receiver => ((c.receiverType? text maxLinks receiver).map c.membersOf).getD []
    | none => c.words before
  matching offered (lastWord text)

/-- The candidates for the word before the cursor, and the byte where it starts. -/
def suggest (line : String) (cursor : Nat) : Nat × List Candidate :=
  match splitBytes? cursor line.toList with
  | some (text, _) => (utf8Length (beforeWord text), c.candidates text)
  | none => (cursor, [])

/-- The rest of the only candidate for the word at the end of a line. It is cut by
the bytes of what was typed. -/
def hint (line : String) (cursor : Nat) : Option String :=
  if cursor < utf8Length line.toList || line.isEmpty then none
  else match c.suggest line cursor with
    | (start, [only]) =>
      let typed := utf8Length line.toList - start
      if 0 < typed && typed < utf8Length only.replacement.toList then
        (splitBytes? typed only.replacement.toList).map fun (_, rest) => String.ofList rest
      else none
    | _ => none

end Completion

end CommitQuery
