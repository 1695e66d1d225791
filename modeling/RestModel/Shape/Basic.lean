import RestModel.Json.Value

/-!
# Shapes — records and names as JSON

A record is an object with all its fields, in any order and possibly with
others beside them, or an array of exactly its fields in declaration order.
A name out of a list is a text, or an object with the name as its only key
over `null`. Nothing is converted from one JSON type to another.
-/

namespace RestModel

namespace Json

/-- The values of a record's fields, in declaration order. -/
def record? (keys : List String) : Json → Option (List Json)
  | .arr items => if items.length = keys.length then some items else none
  | .obj fields => keys.mapM fun key => fields.lookup key
  | _ => none

/-- The name that a value stands for. -/
def name? : Json → Option String
  | .str name => some name
  | .obj [(name, .null)] => some name
  | _ => none

/-- The items of an array, each of the same shape. -/
def list? {α : Type} (item? : Json → Option α) (value : Json) : Option (List α) :=
  value.asArr?.bind (·.mapM item?)

end Json

end RestModel
