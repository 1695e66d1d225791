import RestModel.Spelling

/-!
# Parameters — what an operation takes, where and of which type
-/

namespace RestModel

/-- Where a parameter is carried in the request. -/
inductive Location where
  | path
  | query
  | header
  | cookie
  | body
  deriving DecidableEq, Repr, Inhabited

namespace Location

def all : List Location := [.path, .query, .header, .cookie, .body]

theorem mem_all (location : Location) : location ∈ all := by
  cases location <;> decide

/-- The word for the location in a document. -/
def token : Location → String
  | .path => "path"
  | .query => "query"
  | .header => "header"
  | .cookie => "cookie"
  | .body => "body"

/-- The location that a word stands for. -/
def ofToken? (token : String) : Option Location := all.find? (·.token == token)

theorem token_injective (l m : Location) (h : l.token = m.token) : l = m := by
  cases l <;> cases m <;> first | rfl | exact absurd h (by decide)

/-- A word stands for a location if it is the location's token. -/
theorem ofToken?_eq_some_iff {word : String} {location : Location} :
    ofToken? word = some location ↔ word = location.token :=
  find?_spelling_eq_some_iff mem_all token_injective

/-- A word stands for no location if it differs from every token. -/
theorem ofToken?_eq_none_iff {word : String} :
    ofToken? word = none ↔ ∀ location : Location, word ≠ location.token :=
  find?_spelling_eq_none_iff mem_all

/-- What is said of a word that stands for no location. -/
def unknownMessage (word : String) : String := s!"Unknown parameter location: {word}"

end Location

/-- The type of a parameter, as far as clients are concerned. -/
inductive ParamType where
  | string
  | number
  | boolean
  | object
  | array
  deriving DecidableEq, Repr, Inhabited

namespace ParamType

def all : List ParamType := [.string, .number, .boolean, .object, .array]

/-- The word for the type. -/
def token : ParamType → String
  | .string => "string"
  | .number => "number"
  | .boolean => "boolean"
  | .object => "object"
  | .array => "array"

/-- The type of a schema's `type` word. Integers are numbers. -/
def ofSchemaType? (word : String) : Option ParamType :=
  if word = "integer" then some .number else all.find? (·.token == word)

end ParamType

/-- A parameter of an operation. -/
structure Parameter where
  name : String
  location : Location
  required : Bool
  type : ParamType
  deriving DecidableEq, Repr, Inhabited

/-- What tells the parameters of one operation apart. -/
def Parameter.key (p : Parameter) : String × Location := (p.name, p.location)

/-- Replaces the first parameter with the same key, or adds the new one at the end. -/
def overrideParameter (parameters : List Parameter) (new : Parameter) : List Parameter :=
  match parameters with
  | [] => [new]
  | p :: rest => if p.key = new.key then new :: rest else p :: overrideParameter rest new

/-- The parameters of an operation: those of its path, each overridden in
place by the operation's own of the same key, then the other own ones. -/
def mergeParameters (shared own : List Parameter) : List Parameter :=
  own.foldl overrideParameter shared

end RestModel
