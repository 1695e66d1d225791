import RestModel.Json.Quoted
import RestModel.Json.Number

/-!
# Printing JSON — compact and pretty

The compact form has no space at all. The pretty form puts every item and
field on a line of its own, two spaces deeper than its container, and a
space after each colon; empty containers stay `[]` and `{}`.
-/

namespace RestModel

namespace Json

/-! ## Compact -/

mutual

/-- A value without any white space. -/
def compactChars : Json → List Char
  | .null => "null".toList
  | .bool true => "true".toList
  | .bool false => "false".toList
  | .num n => n.text
  | .str s => Quoted.encode s.toList
  | .arr [] => ['[', ']']
  | .arr (item :: items) => '[' :: (compactChars item ++ compactItems items)
  | .obj [] => ['{', '}']
  | .obj (field :: fields) => '{' :: (compactField field ++ compactFields fields)

/-- The further items of an array and its end. -/
def compactItems : List Json → List Char
  | [] => [']']
  | item :: items => ',' :: (compactChars item ++ compactItems items)

/-- A field of an object. -/
def compactField : String × Json → List Char
  | (key, value) => Quoted.encode key.toList ++ ':' :: compactChars value

/-- The further fields of an object and its end. -/
def compactFields : List (String × Json) → List Char
  | [] => ['}']
  | field :: fields => ',' :: (compactField field ++ compactFields fields)

end

/-- A value as text without any white space. -/
def compact (value : Json) : String := String.ofList (compactChars value)

/-! ## Pretty -/

/-- A new line at the given depth. -/
def newLine (depth : Nat) : List Char := '\n' :: List.replicate (2 * depth) ' '

mutual

/-- A value whose container stands at the given depth. -/
def prettyChars (depth : Nat) : Json → List Char
  | .null => "null".toList
  | .bool true => "true".toList
  | .bool false => "false".toList
  | .num n => n.text
  | .str s => Quoted.encode s.toList
  | .arr [] => ['[', ']']
  | .arr (item :: items) =>
    '[' :: (newLine (depth + 1) ++ prettyChars (depth + 1) item ++ prettyItems depth items)
  | .obj [] => ['{', '}']
  | .obj (field :: fields) =>
    '{' :: (newLine (depth + 1) ++ prettyField (depth + 1) field ++ prettyFields depth fields)

/-- The further items of an array and its end. -/
def prettyItems (depth : Nat) : List Json → List Char
  | [] => newLine depth ++ [']']
  | item :: items =>
    ',' :: (newLine (depth + 1) ++ prettyChars (depth + 1) item ++ prettyItems depth items)

/-- A field of an object. -/
def prettyField (depth : Nat) : String × Json → List Char
  | (key, value) => Quoted.encode key.toList ++ ':' :: ' ' :: prettyChars depth value

/-- The further fields of an object and its end. -/
def prettyFields (depth : Nat) : List (String × Json) → List Char
  | [] => newLine depth ++ ['}']
  | field :: fields =>
    ',' :: (newLine (depth + 1) ++ prettyField (depth + 1) field ++ prettyFields depth fields)

end

/-- A value as text with two spaces of indentation. -/
def pretty (value : Json) : String := String.ofList (prettyChars 0 value)

end Json

end RestModel
