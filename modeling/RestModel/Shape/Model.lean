import RestModel.Shape.Basic
import RestModel.PathEntry
import RestModel.Resource

/-!
# The model as JSON — entries and resources written and read

What is printed can be read back: each type has a writer `toJson` and a
reader `ofJson?` that knows the same field names and spellings. Verbs are
written in capitals, locations, types and the other names in lowercase.
-/

namespace RestModel

/-! ## Names -/

def Verb.toJson (verb : Verb) : Json := .str verb.name

def Verb.ofJson? (value : Json) : Option Verb :=
  value.name?.bind fun name => all.find? (·.name == name)

def Location.toJson (location : Location) : Json := .str location.token

def Location.ofJson? (value : Json) : Option Location := value.name?.bind ofToken?

def ParamType.toJson (type : ParamType) : Json := .str type.token

def ParamType.ofJson? (value : Json) : Option ParamType :=
  value.name?.bind fun name => all.find? (·.token == name)

/-! ## Records -/

def Parameter.toJson (p : Parameter) : Json :=
  .obj [("name", .str p.name), ("in", p.location.toJson), ("required", .bool p.required),
    ("type", p.type.toJson)]

def Parameter.ofJson? (value : Json) : Option Parameter := do
  let [name, location, required, type] ← value.record? ["name", "in", "required", "type"] | none
  return ⟨← name.asStr?, ← Location.ofJson? location, ← required.asBool?, ← ParamType.ofJson? type⟩

def VerbEntry.toJson (entry : VerbEntry) : Json :=
  .obj [("method", entry.verb.toJson), ("parameters", .arr (entry.parameters.map Parameter.toJson))]

def VerbEntry.ofJson? (value : Json) : Option VerbEntry := do
  let [verb, parameters] ← value.record? ["method", "parameters"] | none
  return ⟨← Verb.ofJson? verb, ← parameters.list? Parameter.ofJson?⟩

def PathEntry.toJson (entry : PathEntry) : Json :=
  .obj [("path", .str entry.path), ("verbs", .arr (entry.verbs.map VerbEntry.toJson))]

def PathEntry.ofJson? (value : Json) : Option PathEntry := do
  let [path, verbs] ← value.record? ["path", "verbs"] | none
  return ⟨← path.asStr?, ← verbs.list? VerbEntry.ofJson?⟩

def Method.toJson (method : Method) : Json :=
  .obj [("name", .str method.name), ("parameters", .arr (method.parameters.map Parameter.toJson))]

def Method.ofJson? (value : Json) : Option Method := do
  let [name, parameters] ← value.record? ["name", "parameters"] | none
  return ⟨← name.asStr?, ← parameters.list? Parameter.ofJson?⟩

def Resource.toJson (resource : Resource) : Json :=
  .obj [("className", .str resource.className), ("interfaceName", .str resource.interfaceName),
    ("methods", .arr (resource.methods.map Method.toJson))]

def Resource.ofJson? (value : Json) : Option Resource := do
  let [className, interfaceName, methods] ←
    value.record? ["className", "interfaceName", "methods"] | none
  return ⟨← className.asStr?, ← interfaceName.asStr?, ← methods.list? Method.ofJson?⟩

end RestModel
