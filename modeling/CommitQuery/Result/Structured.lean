-- Query results as JSON: records become objects with a field for each member, in
-- the order of the schema, and sequences become arrays.
import CommitQuery.Json.Writer
import CommitQuery.Value.Schema

namespace CommitQuery

variable {κ ρ : Type}

/-- A field put into an object: in place of the field of that name, else at the end. -/
def Json.put (name : String) (value : Json) : List (String × Json) → List (String × Json)
  | [] => [(name, value)]
  | (key, old) :: rest =>
    if key = name then (key, value) :: rest else (key, old) :: Json.put name value rest

/-- An object with given fields; of two fields of one name, the later one counts. -/
def Json.ofFields (fields : List (String × Json)) : Json :=
  .object (fields.foldl (fun object (name, value) => Json.put name value object) [])

namespace Schema

/-- A value as JSON. A record that leads from member to member without end has none. -/
def toJson? (S : Schema κ ρ) (v : Value κ ρ) : Option Json :=
  match v with
  | .null => some .null
  | .bool b => some (.bool b)
  | .int n => some (.ofInt n.toInt)
  | .long n => some (.ofInt n.toInt)
  | .text s => some (.text s)
  | .timestamp t => some (.text t.toText)
  | .record r origin => do
    let fields ← (S.members (S.kindOf r)).mapM fun m => do
      return (m.name, ← S |>.toJson? (m.get (.record r origin)))
    return Json.ofFields fields
  | .sequence _ items _ => do return .array (← items.mapM (S |>.toJson? ·))
partial_fixpoint

/-- The JSON text of a value that has one. -/
def jsonText? (S : Schema κ ρ) (v : Value κ ρ) : Option String := (S.toJson? v).map (·.toText)

end Schema

end CommitQuery
