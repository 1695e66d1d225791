import RestModel.Yaml.Lexer
import RestModel.Yaml.Alias
import RestModel.Yaml.Schema

/-!
# Reading YAML — one document as JSON

Sequences become arrays and mappings objects, whose keys are the texts of
scalars as they are written. Aliases are expanded, at most a hundred times
as often as the document is large, and collections may be nested 128 deep;
so a node that contains itself is refused. So are tags that are private to
a document, since JSON has no place for them. A text without any document is
null.
-/

namespace RestModel

namespace Yaml

/-- How deeply collections may be nested. -/
def maxDepth : Nat := 128

/-- How often aliases may be expanded, for each unit of a document's size. -/
def expansionsPerUnit : Nat := 100

/-- A private tag: an exclamation mark, and after it well-formed text. -/
def isPrivate (tag : Option (List Char)) : Bool :=
  match tag with
  | some ('!' :: rest) =>
    (String.fromUTF8? ⟨(rest.map fun c => c.toNat.toUInt8).toArray⟩).isSome
  | _ => false

/-- A result that spends some of the expansions that are left. -/
abbrev Expanding := StateT Nat Option

/-- A node that is no alias: the node itself, or what its slot holds. -/
def expand (anchors : Anchors) (node : Linked) : Expanding Linked :=
  match node with
  | .alias slot => do
    let left ← get
    if left = 0 then failure
    set (left - 1)
    (anchors.target? slot).elim failure pure
  | node => pure node

/-- The text of a key. -/
def keyText (anchors : Anchors) (key : Linked) : Expanding String := do
  match ← expand anchors key with
  | .scalar _ _ text => pure text
  | _ => failure

/-- The value of a node in which collections may be nested so deeply. -/
def value (anchors : Anchors) (depth : Nat) (node : Linked) : Expanding Json := do
  match ← expand anchors node with
  | .scalar tag plain text =>
    if isPrivate tag then failure
    (scalarValue? tag plain text).elim failure pure
  | .sequence tag items =>
    match depth with
    | 0 => failure
    | depth + 1 =>
      if isPrivate tag then failure
      let items ← items.mapM (value anchors depth)
      return .arr items
  | .mapping tag entries =>
    match depth with
    | 0 => failure
    | depth + 1 =>
      if isPrivate tag then failure
      let fields ← entries.mapM fun (key, node) => do
        let key ← keyText anchors key
        return (key, ← value anchors depth node)
      return .obj (fieldsOf fields)
  | .alias _ => failure

/-- The value that a text spells. -/
def read? (text : String) : Option Json := do
  match ← document? (← tokens? text) with
  | none => some .null
  | some node =>
    let (linked, anchors) ← link? Anchors.none node
    (·.1) <$> (value anchors maxDepth linked).run (expansionsPerUnit * node.size)

end Yaml

end RestModel
