import RestModel.Json.Token

/-!
# Reading JSON — tokens into one value

The reader goes through the tokens once, with the containers that are still
open on a stack. What may come next is its `Expect`. A text is accepted if
it holds exactly one value and no container stands inside `limit` others.
When an object repeats a key, the last value wins and stands where the key
first stood.
-/

namespace RestModel

namespace Json

/-- A container that is still open: an array with its items so far, the
latest first, or an object with its fields so far and the key whose value
is being read. -/
inductive Frame where
  | arr (items : List Json)
  | obj (fields : List (String × Json)) (key : String)

/-- What the next token has to be. -/
inductive Expect where
  /-- A value. -/
  | value
  /-- The first item of an array, or its end. -/
  | item
  /-- The first key of an object, or its end. -/
  | field
  /-- A further key of an object with the given fields. -/
  | key (fields : List (String × Json))
  /-- The colon after a key. -/
  | colon (fields : List (String × Json)) (key : String)
  /-- What may follow a complete value: a comma or the end of its container. -/
  | after (value : Json)

/-- The value of the tokens, given the open containers and what is expected. -/
def build? (limit : Nat) : List Frame → Expect → List Token → Option Json
  | [], .after v, [] => some v
  | _, _, [] => none
  | stack, expect, token :: rest =>
    match expect, token with
    | .field, .closeObject => build? limit stack (.after (.obj [])) rest
    | .field, .str key => build? limit stack (.colon [] key) rest
    | .key fields, .str key => build? limit stack (.colon fields key) rest
    | .colon fields key, .colon => build? limit (.obj fields key :: stack) .value rest
    | .after v, .comma =>
      match stack with
      | .arr items :: below => build? limit (.arr (v :: items) :: below) .value rest
      | .obj fields key :: below => build? limit below (.key (setField fields key v)) rest
      | [] => none
    | .after v, .closeArray =>
      match stack with
      | .arr items :: below => build? limit below (.after (.arr (v :: items).reverse)) rest
      | _ => none
    | .after v, .closeObject =>
      match stack with
      | .obj fields key :: below => build? limit below (.after (.obj (setField fields key v))) rest
      | _ => none
    | .item, .closeArray =>
      match stack with
      | .arr [] :: below => build? limit below (.after (.arr [])) rest
      | _ => none
    | .value, token | .item, token =>
      match token with
      | .null => build? limit stack (.after .null) rest
      | .bool b => build? limit stack (.after (.bool b)) rest
      | .num n => build? limit stack (.after (.num n)) rest
      | .str s => build? limit stack (.after (.str s)) rest
      | .openArray =>
        if stack.length < limit then build? limit (.arr [] :: stack) .item rest else none
      | .openObject =>
        if stack.length < limit then build? limit stack .field rest else none
      | _ => none
    | _, _ => none

/-- How deeply the containers of a document may be nested. -/
def maxDepth : Nat := 127

/-- The value that a text spells, with containers nested at most `limit` deep. -/
def readWithin? (limit : Nat) (text : String) : Option Json :=
  (tokens? text.toList).bind (build? limit [] .value)

/-- The value that a text spells. -/
def read? (text : String) : Option Json := readWithin? maxDepth text

end Json

end RestModel
