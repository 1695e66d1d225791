import RestModel.Unicode.Table

/-!
# Blank characters — the property `White_Space`

The same set separates words in a name and decides whether a configured
name is blank.
-/

namespace RestModel

namespace Unicode

/-- The stretches of white space. -/
def whiteSpaceTable : List Stretch := [
  ⟨9, 13, 1⟩, ⟨32, 32, 1⟩, ⟨133, 133, 1⟩, ⟨160, 160, 1⟩, ⟨5760, 5760, 1⟩, ⟨8192, 8202, 1⟩,
  ⟨8232, 8233, 1⟩, ⟨8239, 8239, 1⟩, ⟨8287, 8287, 1⟩, ⟨12288, 12288, 1⟩]

/-- A character with the property `White_Space`. -/
def isWhiteSpace (c : Char) : Bool := listed whiteSpaceTable c

/-- A text with nothing in it but white space, the empty text included. -/
def isBlank (text : String) : Bool := text.toList.all isWhiteSpace

end Unicode

end RestModel
