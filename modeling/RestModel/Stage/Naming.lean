import RestModel.Stage.Basic
import RestModel.Settings.Basic
import RestModel.Naming.ClassName

/-!
# The naming stage — class and interface name from the path

The class is named by the path, or by the configured fallback if the path
has no name; the interface is named by the mark and the class name. A
different class name of an earlier stage is replaced, with a warning.
-/

namespace RestModel

/-- The class name of a path under the given settings. -/
def Settings.className (settings : Settings) (path : String) : Traced String :=
  match Naming.className? path with
  | some name => pure name
  | none =>
    match settings.fallback with
    | some name => do
      Traced.log (.fallbackUsed path name)
      return name
    | none => Traced.fail (.unnameablePath path)

/-- Names the class and the interface of a resource. -/
def Settings.naming (settings : Settings) : Stage := fun entry resource => do
  let name ← settings.className entry.path
  if resource.className ≠ "" ∧ resource.className ≠ name then
    Traced.log (.classNameReplaced entry.path resource.className name)
  return { resource with className := name, interfaceName := settings.interfaceMark ++ name }

end RestModel
