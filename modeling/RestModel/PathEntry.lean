import RestModel.Verb
import RestModel.Parameter

/-!
# Path entries — what a document says about one path

A path entry is the path exactly as written, with its verbs in document
order. It is what every stage of a pipeline reads and none changes.
-/

namespace RestModel

/-- A verb of a path, with its parameters in declaration order. -/
structure VerbEntry where
  verb : Verb
  parameters : List Parameter
  deriving DecidableEq, Repr, Inhabited

/-- A path and its verbs. -/
structure PathEntry where
  path : String
  verbs : List VerbEntry
  deriving DecidableEq, Repr, Inhabited

end RestModel
