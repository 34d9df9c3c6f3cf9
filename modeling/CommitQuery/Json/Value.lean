-- JSON values. An object keeps its fields in the order they are written in, and
-- a number keeps what it was written as, because only a number without a
-- fraction and an exponent is an integer. Half of a surrogate pair may be written
-- as an escape, but no text holds it: such a value can be passed over, not read.

namespace CommitQuery

/-- What a number literal has after its integer part. -/
structure Json.Fraction where
  digits : List Char
  exponent : List Char
deriving DecidableEq, Repr

/-- A number literal: a sign, an integer part and perhaps a fraction. -/
structure Json.Number where
  negative : Bool
  whole : Nat
  fraction? : Option Json.Fraction
deriving DecidableEq, Repr

inductive Json
  | null
  | bool (b : Bool)
  | number (n : Json.Number)
  | text (s : String)
  | array (items : List Json)
  | object (fields : List (String × Json))
  | illFormed
deriving Repr

namespace Json

/-- The literal of an integer. -/
def ofInt (n : Int) : Json := .number ⟨decide (n < 0), n.natAbs, none⟩

def ofNat (n : Nat) : Json := ofInt n

/-- An object, unless one of its keys is ill-formed. -/
def ofKeyed (fields : List (Option String × Json)) : Json :=
  match fields.mapM fun field => field.1.map (·, field.2) with
  | some whole => .object whole
  | none => .illFormed

/-- A text, or null where there is none. -/
def ofText? : Option String → Json
  | some s => .text s
  | none => .null

/-- The integer that a literal writes; a minus in front of zero is no integer. -/
def Number.toInt? (n : Number) : Option Int :=
  match n.fraction?, n.negative, n.whole with
  | some _, _, _ => none
  | none, true, 0 => none
  | none, true, m => some (-m)
  | none, false, m => some m

/-- The first field of a name. -/
def field? (name : String) : List (String × Json) → Option Json
  | [] => none
  | (key, value) :: rest => if key = name then some value else field? name rest

/-- How many fields have a name. -/
def occurrences (name : String) (fields : List (String × Json)) : Nat :=
  fields.countP (·.1 = name)

end Json

end CommitQuery
