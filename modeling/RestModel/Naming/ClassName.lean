import RestModel.Naming.Casing
import RestModel.Segments

/-!
# Class names — the literal segments of a path in one word

A path such as `/users/{username}/repos` is named by its literal segments,
`UsersRepos`. Empty segments and placeholders contribute nothing, and a path
in which nothing else stands has no name of its own.
-/

namespace RestModel

namespace Naming

/-- A segment in braces stands for a parameter. A lone brace does not. -/
def isPlaceholder (segment : List Char) : Bool :=
  decide (2 ≤ segment.length) && segment.head? == some '{' && segment.getLast? == some '}'

/-- What a segment adds to the name of its path. -/
def segmentName (segment : List Char) : List Char :=
  if isPlaceholder segment then [] else pascal segment

/-- The name that a path's segments spell, empty if they spell none. -/
def pathName (path : List Char) : List Char := ((segments path).map segmentName).flatten

/-- The class name of a path, if it has a segment to be named by. -/
def className? (path : String) : Option String :=
  let name := pathName path.toList
  if name.isEmpty then none else some (String.ofList name)

/-- **Names are built segment by segment.** -/
theorem pathName_append_slash (p q : List Char) :
    pathName (p ++ '/' :: q) = pathName p ++ pathName q := by
  simp [pathName, segments_append_slash]

end Naming

end RestModel
