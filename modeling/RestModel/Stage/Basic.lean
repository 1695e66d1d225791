import RestModel.PathEntry
import RestModel.Resource
import RestModel.Traced

/-!
# Stages — the steps from a path entry to its resource

A stage reads the entry of a path and changes the resource made so far, or
fails. Besides the stock stages, a user may have stages of their own; `Edit`
lists the small ones that set or extend one part of a resource.
-/

namespace RestModel

/-- A step of a pipeline. -/
abbrev Stage := PathEntry → Resource → Traced Resource

/-- A stage that does one small thing. -/
inductive Edit where
  | setClass (text : String)
  | appendClass (text : String)
  | setInterface (text : String)
  /-- The interface is named like the path. -/
  | interfaceFromPath
  /-- A method without parameters, named by the text and the number of methods before it. -/
  | pushMethod (text : String)
  /-- The path is said to have no name. -/
  | refuse
  deriving DecidableEq, Repr

/-- The stage of an edit. -/
def Edit.stage (edit : Edit) : Stage := fun entry resource =>
  match edit with
  | .setClass text => pure { resource with className := text }
  | .appendClass text => pure { resource with className := resource.className ++ text }
  | .setInterface text => pure { resource with interfaceName := text }
  | .interfaceFromPath => pure { resource with interfaceName := entry.path }
  | .pushMethod text =>
    let method : Method := ⟨text ++ toString resource.methods.length, []⟩
    pure { resource with methods := resource.methods ++ [method] }
  | .refuse => Traced.fail (.unnameablePath entry.path)

end RestModel
