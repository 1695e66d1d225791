import RestModel.Stage.Basic
import RestModel.Settings.Basic
import RestModel.Naming.Casing

/-!
# The method stage — one method per verb

Every verb of the path adds a method, in order. The method keeps the
parameters that the policy chooses, each renamed to the casing of
parameters and otherwise unchanged.
-/

namespace RestModel

/-- The parameter as a method takes it. -/
def Parameter.renamed (p : Parameter) : Parameter := { p with name := Naming.camelCase p.name }

/-- The policy keeps a parameter. -/
def ParameterPolicy.keeps : ParameterPolicy → Parameter → Bool
  | .pathOnly, p => p.location == .path
  | .all, _ => true

/-- The method of a verb. -/
def Settings.method (settings : Settings) (entry : VerbEntry) : Method where
  name := settings.methodName entry.verb
  parameters := (entry.parameters.filter settings.policy.keeps).map Parameter.renamed

/-- The event of a derived method. -/
def Settings.methodEvent (settings : Settings) (path : String) (entry : VerbEntry) : Event :=
  let method := settings.method entry
  .methodDerived path entry.verb method.name method.parameters.length

/-- Adds a method for each verb of the path. -/
def Settings.methods (settings : Settings) : Stage := fun entry resource =>
  ⟨entry.verbs.map (settings.methodEvent entry.path),
    .ok { resource with methods := resource.methods ++ entry.verbs.map settings.method }⟩

end RestModel
