import RestModel.Parameter

/-!
# Resources — the client model of one path

A resource has a class, the interface that the class implements, and one
method per verb of its path. A pipeline starts from the empty resource.
-/

namespace RestModel

/-- A method of a resource. -/
structure Method where
  name : String
  parameters : List Parameter
  deriving DecidableEq, Repr, Inhabited

/-- The client model of one path. -/
structure Resource where
  className : String
  interfaceName : String
  methods : List Method
  deriving DecidableEq, Repr, Inhabited

/-- The resource that nothing has been said about yet. -/
def Resource.empty : Resource := ⟨"", "", []⟩

end RestModel
