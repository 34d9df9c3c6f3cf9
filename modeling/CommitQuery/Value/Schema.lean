-- The schema of a program: what a query may read from and call on a value of
-- each type. Texts, timestamps and sequences bring their own members; records
-- bring what the schema lists for their kind.
import CommitQuery.Text.Pieces
import CommitQuery.Value.Basic

namespace CommitQuery

/-- A named part of a value. -/
structure Member (κ ρ : Type) where
  name : String
  type : ValueType κ
  get : Value κ ρ → Value κ ρ

/-- A named function of a value and arguments; a failure has a message. -/
structure Method (κ ρ : Type) where
  name : String
  parameters : List (ValueType κ)
  returns : ValueType κ
  call : Value κ ρ → List (Value κ ρ) → Except String (Value κ ρ)

/-- The kinds of records, with the members and methods of each. Kinds may refer
to each other in any way. -/
structure Schema (κ ρ : Type) where
  kindOf : ρ → κ
  nameOf : κ → String
  members : κ → List (Member κ ρ)
  methods : κ → List (Method κ ρ)

variable {κ ρ : Type}

namespace Schema

variable (S : Schema κ ρ)

/-- The name of a type. -/
def typeName : ValueType κ → String
  | .null => "Null"
  | .bool => "Bool"
  | .int => "Int"
  | .long => "Long"
  | .text => "Text"
  | .timestamp => "Timestamp"
  | .record kind => S.nameOf kind
  | .sequence element => "Sequence<" ++ typeName element ++ ">"
  | .function parameter result => "Func<" ++ typeName parameter ++ ", " ++ typeName result ++ ">"

/-- The type that a value has. -/
def typeOf : Value κ ρ → ValueType κ
  | .null => .null
  | .bool _ => .bool
  | .int _ => .int
  | .long _ => .long
  | .text _ => .text
  | .timestamp _ => .timestamp
  | .record r _ => .record (S.kindOf r)
  | .sequence element _ _ => .sequence element

/-- A value on one line: a record by the name of its kind, a sequence by its length. -/
def shown : Value κ ρ → String
  | .null => "(null)"
  | .bool b => if b then "true" else "false"
  | .int n => toString n.toInt
  | .long n => toString n.toInt
  | .text s => s
  | .timestamp t => t.shown
  | .record r _ => "<" ++ S.nameOf (S.kindOf r) ++ ">"
  | .sequence _ items _ => "[" ++ toString items.length ++ " items]"

/-- A method with its parameters and its result, as error messages show it. -/
def signature (m : Method κ ρ) : String :=
  m.name ++ "(" ++ Text.joinWith ", " (m.parameters.map S.typeName) ++ ") -> " ++
    S.typeName m.returns

/-! ## Arguments of methods -/

/-- An argument that has to be a text. -/
def textArgument (arguments : List (Value κ ρ)) (index : Nat) : Except String String :=
  match arguments[index]? with
  | some (.text s) => .ok s
  | some .null => .error "value cannot be null"
  | some other => .error ("expected Text argument, got " ++ S.typeName (S.typeOf other))
  | none => .error ("missing argument " ++ toString (index + 1))

/-- The receiver of a text method. -/
def textReceiver (receiver : Value κ ρ) : Except String String :=
  match receiver with
  | .text s => .ok s
  | other => .error ("receiver is " ++ S.typeName (S.typeOf other) ++ ", not Text")

/-- The receiver of a record method, as far as `read` knows its kind. -/
def recordReceiver {α : Type} (read : ρ → Option α) (receiver : Value κ ρ) : Except String α :=
  let known := match receiver with
    | .record r _ => read r
    | _ => none
  match known with
  | some a => .ok a
  | none =>
    .error ("receiver is " ++ S.typeName (S.typeOf receiver) ++
      ", not a record of the expected type")

/-! ## Texts, timestamps and sequences -/

/-- A method of texts that tests its receiver against one argument. -/
def textTest (name : String) (test : String → String → Bool) : Method κ ρ where
  name := name
  parameters := [.text]
  returns := .bool
  call receiver arguments := do
    let s ← S.textReceiver receiver
    let needle ← S.textArgument arguments 0
    return .bool (test s needle)

/-- A method of texts without arguments. -/
def textMap (name : String) (f : String → String) : Method κ ρ where
  name := name
  parameters := []
  returns := .text
  call receiver _ := do
    let s ← S.textReceiver receiver
    return .text (f s)

def textMembers : List (Member κ ρ) :=
  [{ name := "Length", type := .int,
     get := fun
       | .text s => .ofCount s.toList.length
       | _ => .null }]

def textMethods : List (Method κ ρ) :=
  [S.textTest "Contains" Text.contains,
   S.textTest "StartsWith" fun s needle => needle.toList.isPrefixOf s.toList,
   S.textTest "EndsWith" fun s needle => needle.toList.isSuffixOf s.toList,
   S.textTest "Equals" fun s needle => s == needle,
   S.textMap "ToLower" Text.lowercase,
   S.textMap "ToUpper" Text.uppercase,
   S.textMap "Trim" Text.trim]

/-- A part of a timestamp's local date and time. -/
def timestampMember (name : String) (part : Timestamp → Int) : Member κ ρ where
  name := name
  type := .int
  get
    | .timestamp t => .int (Int32.ofInt (part t))
    | _ => .null

def timestampMembers : List (Member κ ρ) :=
  [timestampMember "Year" (·.date.year),
   timestampMember "Month" (·.date.month),
   timestampMember "Day" (·.date.day),
   timestampMember "Hour" (·.hour),
   timestampMember "Minute" (·.minute)]

def sequenceMembers : List (Member κ ρ) :=
  [{ name := "Count", type := .int,
     get := fun
       | .sequence _ items _ => .ofCount items.length
       | _ => .null }]

/-! ## Look-up -/

/-- The members of a type. -/
def membersOf : ValueType κ → List (Member κ ρ)
  | .record kind => S.members kind
  | .text => textMembers
  | .timestamp => timestampMembers
  | .sequence _ => sequenceMembers
  | _ => []

/-- The methods of a type. The operators of sequences are part of the language and
are not listed here. -/
def methodsOf : ValueType κ → List (Method κ ρ)
  | .record kind => S.methods kind
  | .text => S.textMethods
  | _ => []

/-- The member of a name, in any case of ASCII letters. -/
def findMember? (type : ValueType κ) (name : String) : Option (Member κ ρ) :=
  (S.membersOf type).find? fun m => Text.equalsIgnoringAsciiCase m.name name

/-- The methods of a name, in any case of ASCII letters, with a number of parameters. -/
def findMethods (type : ValueType κ) (name : String) (arity : Nat) : List (Method κ ρ) :=
  (S.methodsOf type).filter fun m =>
    Text.equalsIgnoringAsciiCase m.name name && m.parameters.length == arity

end Schema

end CommitQuery
