import RestModel.Fields

/-!
# JSON values — documents, answers and everything between them

An object keeps its fields in the order in which their keys first appeared,
because verbs and paths are read in document order. `WellFormed` says that
no object repeats a key, as none does that is built field by field with
`setField`.
-/

namespace RestModel

/-- A number is an integer of 64 bits, signed or not, or a double. -/
inductive Number where
  | int (value : Int)
  | float (value : Float)
  deriving Inhabited

/-- A JSON value. -/
inductive Json where
  | null
  | bool (value : Bool)
  | num (value : Number)
  | str (text : String)
  | arr (items : List Json)
  | obj (fields : List (String × Json))
  deriving Inhabited

/-! ## Looking into a value -/

namespace Json

/-- No object repeats a key, at any depth. -/
inductive WellFormed : Json → Prop
  | null : WellFormed .null
  | bool (value : Bool) : WellFormed (.bool value)
  | num (value : Number) : WellFormed (.num value)
  | str (text : String) : WellFormed (.str text)
  | arr {items : List Json} (each : ∀ item ∈ items, WellFormed item) : WellFormed (.arr items)
  | obj {fields : List (String × Json)} (distinct : (fields.map Prod.fst).Nodup)
      (each : ∀ field ∈ fields, WellFormed field.2) : WellFormed (.obj fields)

/-- The value of an object's key. -/
def get? (value : Json) (key : String) : Option Json :=
  match value with
  | .obj fields => fields.lookup key
  | _ => none

def asObj? : Json → Option (List (String × Json))
  | .obj fields => some fields
  | _ => none

def asArr? : Json → Option (List Json)
  | .arr items => some items
  | _ => none

def asStr? : Json → Option String
  | .str text => some text
  | _ => none

def asBool? : Json → Option Bool
  | .bool value => some value
  | _ => none

theorem asObj?_eq_some_iff {value : Json} {fields : List (String × Json)} :
    value.asObj? = some fields ↔ value = .obj fields := by
  cases value <;> simp [asObj?]

theorem asObj?_eq_none_iff {value : Json} :
    value.asObj? = none ↔ ∀ fields, value ≠ .obj fields := by
  cases value <;> simp [asObj?]

theorem asArr?_eq_some_iff {value : Json} {items : List Json} :
    value.asArr? = some items ↔ value = .arr items := by
  cases value <;> simp [asArr?]

theorem asArr?_eq_none_iff {value : Json} :
    value.asArr? = none ↔ ∀ items, value ≠ .arr items := by
  cases value <;> simp [asArr?]

/-- The text under an object's key. -/
def getStr? (value : Json) (key : String) : Option String := (value.get? key).bind asStr?

end Json

end RestModel
