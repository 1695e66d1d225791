/-!
# YAML tokens — indentation and indicators made explicit

Tokens are what remains of a text once its layout is understood: where
block collections begin and end, which scalars are keys, and the text of
each scalar.
-/

namespace RestModel

namespace Yaml

/-- A tag as it is written: an abbreviation of the beginning, or nothing, and
the rest. Both consist of octets, one character each. -/
structure TagText where
  handle : List Char
  suffix : List Char
  deriving DecidableEq, Repr, Inhabited

/-- A token of YAML text. -/
inductive Token where
  /-- The version of YAML that a document is written in. -/
  | version (major minor : Nat)
  /-- An abbreviation for the beginning of tags. -/
  | tagHandle (handle beginning : List Char)
  | documentStart
  | documentEnd
  | blockSequence
  | blockMapping
  /-- The end of a block collection. -/
  | blockEnd
  | flowSequence
  | flowSequenceEnd
  | flowMapping
  | flowMappingEnd
  /-- The dash before an item. -/
  | entry
  /-- The comma between items in brackets. -/
  | comma
  | key
  | value
  | alias (name : String)
  | anchor (name : String)
  | tag (tag : TagText)
  /-- A scalar, either plain or in some quotes. -/
  | scalar (plain : Bool) (text : String)
  deriving DecidableEq, Repr, Inhabited

end Yaml

end RestModel
