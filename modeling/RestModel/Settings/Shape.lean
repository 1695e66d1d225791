import RestModel.Shape.Basic
import RestModel.Settings.Basic

/-!
# Settings as JSON

Every setting may be left out and then has its stock value; a field that is
no setting is refused. As an array, settings stand in declaration order and
those at the end may be left out. Reading settings does not check them.
-/

namespace RestModel

namespace Settings

/-- The names of the settings, in declaration order. -/
def keys : List String := ["interface_prefix", "fallback_class_name", "parameters", "method_names"]

/-- A setting read as the given shape, or its stock value if it is not set. -/
def field? {α : Type} (fields : List (String × Json)) (key : String) (stock : α)
    (read? : Json → Option α) : Option α :=
  match fields.lookup key with
  | none => some stock
  | some value => read? value

/-- A fallback, unset by `null`. -/
def fallbackOfJson? : Json → Option (Option String)
  | .null => some none
  | .str name => some (some name)
  | _ => none

/-- Method names by verb. -/
def namesOfJson? (value : Json) : Option (List (String × String)) :=
  value.asObj?.bind (·.mapM fun (key, name) => name.asStr?.map (key, ·))

/-- The settings that the given fields set. -/
def ofFields? (fields : List (String × Json)) : Option Settings := do
  if !fields.all fun field => keys.contains field.1 then none
  let interfaceMark ← field? fields "interface_prefix" stock.interfaceMark Json.asStr?
  let fallback ← field? fields "fallback_class_name" stock.fallback fallbackOfJson?
  let policy ← field? fields "parameters" stock.policy
    fun value => value.name?.bind ParameterPolicy.ofToken?
  let methodNames ← field? fields "method_names" stock.methodNames namesOfJson?
  return { interfaceMark, fallback, policy, methodNames }

/-- The settings that a value describes. -/
def ofJson? : Json → Option Settings
  | .obj fields => ofFields? fields
  | .arr items => if items.length ≤ keys.length then ofFields? (keys.zip items) else none
  | _ => none

/-- Settings as they are shown, with the method names sorted by their keys
and the name that each verb has in effect. -/
def report (settings : Settings) : Json :=
  let names := settings.methodNames.mergeSort fun a b => decide (a.1 ≤ b.1)
  .obj [("interface_prefix", .str settings.interfaceMark),
    ("fallback_class_name", (settings.fallback.map Json.str).getD .null),
    ("parameters", .str settings.policy.token),
    ("method_names", .obj (names.map fun (key, name) => (key, .str name))),
    ("effective", .arr (Verb.all.map fun verb => .str (settings.methodName verb)))]

end Settings

end RestModel
