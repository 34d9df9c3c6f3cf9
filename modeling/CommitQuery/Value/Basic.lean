-- Values that a query works with, and their types. Records are open: `κ` is the
-- type of record kinds and `ρ` the type of records.
import CommitQuery.Text.Case
import CommitQuery.Time.Timestamp

namespace CommitQuery

/-- The static type of a part of a query. -/
inductive ValueType (κ : Type)
  | null
  | bool
  | int
  | long
  | text
  | timestamp
  | record (kind : κ)
  | sequence (element : ValueType κ)
  | function (parameter result : ValueType κ)
deriving DecidableEq, Repr

/-- A value. A sequence knows the type of its items, so that an empty one has a
type as well. A record or a sequence of a data set has its number in there as its
origin; one that a run builds has none. -/
inductive Value (κ ρ : Type)
  | null
  | bool (b : Bool)
  | int (n : Int32)
  | long (n : Int64)
  | text (s : String)
  | timestamp (t : Timestamp)
  | record (r : ρ) (origin : Option Nat)
  | sequence (element : ValueType κ) (items : List (Value κ ρ)) (origin : Option Nat)

variable {κ ρ : Type}

namespace ValueType

def isNumeric : ValueType κ → Bool
  | .int | .long => true
  | _ => false

/-- Types that a sort key may have. -/
def isOrderable : ValueType κ → Bool
  | .bool | .int | .long | .text | .timestamp => true
  | _ => false

/-- The type of the items of a sequence type. -/
def element? : ValueType κ → Option (ValueType κ)
  | .sequence element => some element
  | _ => none

end ValueType

namespace Value

def isNull : Value κ ρ → Bool
  | .null => true
  | _ => false

def toBool? : Value κ ρ → Option Bool
  | .bool b => some b
  | _ => none

/-- The integer that a number of either width stands for. -/
def toInt? : Value κ ρ → Option Int
  | .int n => some n.toInt
  | .long n => some n.toInt
  | _ => none

def toText? : Value κ ρ → Option String
  | .text s => some s
  | _ => none

/-- The items of a sequence. -/
def items? : Value κ ρ → Option (List (Value κ ρ))
  | .sequence _ items _ => some items
  | _ => none

def ofText? : Option String → Value κ ρ
  | some s => .text s
  | none => .null

/-- A record that is no part of a data set by itself. -/
def ofRecord (r : ρ) : Value κ ρ := .record r none

/-- A sequence that is no part of a data set. -/
def ofItems (element : ValueType κ) (items : List (Value κ ρ)) : Value κ ρ :=
  .sequence element items none

/-- A sequence of texts. -/
def ofTexts (texts : List String) : Value κ ρ := .ofItems .text (texts.map .text)

/-- A whole number as an `Int`; a count is far below the limit where it wraps. -/
def ofCount (n : Nat) : Value κ ρ := .int (Int32.ofNat n)

/-! ## Origins -/

mutual

/-- A value whose records and sequences are numbered from `next` on, outer ones
first, and the number after the last one. -/
def numberFrom (next : Nat) : Value κ ρ → Value κ ρ × Nat
  | .record r _ => (.record r (some next), next + 1)
  | .sequence element items _ =>
    let (items, after) := numberAllFrom (next + 1) items
    (.sequence element items (some next), after)
  | v => (v, next)

/-- Values numbered one after the other. -/
def numberAllFrom (next : Nat) : List (Value κ ρ) → List (Value κ ρ) × Nat
  | [] => ([], next)
  | v :: rest =>
    let (v, afterFirst) := numberFrom next v
    let (rest, after) := numberAllFrom afterFirst rest
    (v :: rest, after)

end

/-- The values of a data set, each record and sequence with an origin of its own. -/
def numbered (values : List (Value κ ρ)) : List (Value κ ρ) := (numberAllFrom 0 values).1

/-- Whether two origins are one and the same place of the data. -/
def sameOrigin : Option Nat → Option Nat → Bool
  | some a, some b => a == b
  | _, _ => false

/-! ## Comparison -/

/-- Equality of two values. Null equals Null only, and numbers of both widths are
compared as integers. Records and sequences have no equality but identity: they are
equal if they are the same part of the data. -/
def equals : Value κ ρ → Value κ ρ → Bool
  | .null, .null => true
  | .bool a, .bool b => a == b
  | .text a, .text b => a == b
  | .timestamp a, .timestamp b => a.sameInstant b
  | .record _ a, .record _ b => sameOrigin a b
  | .sequence _ _ a, .sequence _ _ b => sameOrigin a b
  | a, b =>
    match a.toInt?, b.toInt? with
    | some m, some n => m == n
    | _, _ => false

/-- The order of texts: by their lower case, and by code points among those that
differ in case only. -/
def compareTexts (a b : String) : Ordering :=
  (compare (Text.lowerList a.toList) (Text.lowerList b.toList)).then (compare a.toList b.toList)

/-- The order of two values of one orderable kind. -/
def compare? : Value κ ρ → Value κ ρ → Option Ordering
  | .bool a, .bool b => some (compare a b)
  | .text a, .text b => some (compareTexts a b)
  | .timestamp a, .timestamp b => some (a.compare b)
  | a, b =>
    match a.toInt?, b.toInt? with
    | some m, some n => some (compare m n)
    | _, _ => none

/-- The order that sorting uses: Null comes first, and values without an order
are tied. -/
def sortOrder : Value κ ρ → Value κ ρ → Ordering
  | .null, .null => .eq
  | .null, _ => .lt
  | _, .null => .gt
  | a, b => (compare? a b).getD .eq

end Value

end CommitQuery
