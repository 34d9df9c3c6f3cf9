-- Reading records from JSON. A record is an object whose known fields occur at
-- most once, or an array with the values of the fields in their order. Unknown
-- fields of an object do not count.
import CommitQuery.Json.Value
import CommitQuery.Time.Reader

namespace CommitQuery.Json

/-- What a record has for a field: a value, nothing, or nothing because its array
ended before. -/
inductive Slot
  | value (j : Json)
  | missing
  | ended

/-- The slots of an array of values. -/
def slotsOfItems : List String → List Json → Option (List Slot)
  | [], [] => some []
  | [], _ :: _ => none
  | _ :: names, [] => (slotsOfItems names []).map (.ended :: ·)
  | _ :: names, item :: items => (slotsOfItems names items).map (.value item :: ·)

/-- The slot of a field of an object. -/
def slotOfField (fields : List (String × Json)) (name : String) : Slot :=
  match field? name fields with
  | some j => .value j
  | none => .missing

/-- The slots of a record with the given fields. -/
def slots? (names : List String) : Json → Option (List Slot)
  | .array items => slotsOfItems names items
  | .object fields =>
    if names.all fun name => decide (occurrences name fields ≤ 1) then
      some (names.map (slotOfField fields))
    else none
  | _ => none

namespace Slot

variable {α : Type}

/-- A field that has to be there. -/
def required (read : Json → Option α) : Slot → Option α
  | .value j => read j
  | _ => none

/-- A field that may be null or may be left out of an object. -/
def optional (read : Json → Option α) : Slot → Option (Option α)
  | .value .null => some none
  | .value j => (read j).map some
  | .missing => some none
  | .ended => none

/-- A field with a value to fall back to. -/
def withDefault (fallback : α) (read : Json → Option α) : Slot → Option α
  | .value j => read j
  | _ => some fallback

end Slot

/-! ## Values of fields -/

def readText : Json → Option String
  | .text s => some s
  | _ => none

def readBool : Json → Option Bool
  | .bool b => some b
  | _ => none

/-- A time of UTC. -/
def readTime (j : Json) : Option Timestamp := (readText j).bind Timestamp.readUtc?

/-- A whole number of 64 bits without a sign. -/
def readWord : Json → Option UInt64
  | .number n =>
    match n.toInt? with
    | some m => if 0 ≤ m ∧ m.toNat < UInt64.size then some (UInt64.ofNat m.toNat) else none
    | none => none
  | _ => none

def readList {α : Type} (read : Json → Option α) : Json → Option (List α)
  | .array items => items.mapM read
  | _ => none

end CommitQuery.Json
