import RestModel.Document.Reference
import RestModel.Parameter

/-!
# Declarations — a parameter as a document declares it

A declaration gives the parameter's name, its location and its type. The
type stands in a `schema` or, in the older form, in the declaration itself;
both are classified by the same rule. A parameter in the path is required
whatever the declaration says, any other only if it says so.
-/

namespace RestModel

/-- The keys whose presence makes a schema without a type an object. -/
def objectKeys : List String := ["properties", "allOf", "oneOf", "anyOf"]

/-- The type of a schema. An array of types counts as its first text other
than `null`; without a type, `items` makes an array, and a composition or
`properties` make an object. -/
def ParamType.ofSchema (name : String) (schema : Json) : Except ParameterFault ParamType :=
  match schema.get? "type" with
  | some (.str word) =>
    match ofSchemaType? word with
    | some type => .ok type
    | none => .error (.unsupportedType name word)
  | some (.arr words) =>
    match ((words.filterMap Json.asStr?).find? (· != "null")).bind ofSchemaType? with
    | some type => .ok type
    | none => .error (.noUsableType name)
  | some _ => .error (.typeNotText name)
  | none =>
    if (schema.get? "items").isSome then .ok .array
    else if objectKeys.any fun key => (schema.get? key).isSome then .ok .object
    else .error (.noType name)

/-- A parameter at the given location is required if that is the path, or if
its declaration says so. -/
def Parameter.isRequired (location : Location) (value : Json) : Bool :=
  location == .path || ((value.get? "required").bind Json.asBool?).getD false

/-- The schema of a declaration: the one that it names, or else the declaration itself. -/
def Parameter.schemaOf (resolver : Resolver) (value : Json) : Except Failure Json :=
  match value.get? "schema" with
  | some schema => resolver.resolve schema
  | none => .ok value

/-- The parameter that a concrete value declares for a path. Only its schema
may still be a reference. -/
def Parameter.ofDeclaration (resolver : Resolver) (path : String) (value : Json) :
    Except Failure Parameter := do
  let malformed (fault : ParameterFault) : Failure := .malformedParameter path fault
  if value.asObj?.isNone then throw (malformed .notObject)
  let some name := value.getStr? "name" | throw (malformed .noName)
  let some word := value.getStr? "in" | throw (malformed (.noLocation name))
  let some location := Location.ofToken? word | throw (.unknownLocation path name word)
  let schema ← Parameter.schemaOf resolver value
  let type ← (ParamType.ofSchema name schema).mapError malformed
  return { name, location, required := Parameter.isRequired location value, type }

/-- The parameter that an item of a `parameters` entry declares. The item may be a reference. -/
def Parameter.read (resolver : Resolver) (path : String) (item : Json) :
    Except Failure Parameter := do
  Parameter.ofDeclaration resolver path (← resolver.resolve item)

/-- The parameters of a `parameters` entry. -/
def Parameter.listOf (resolver : Resolver) (path : String) (value : Json) :
    Except Failure (List Parameter) :=
  match value.asArr? with
  | none => .error (.malformedOperation path .parametersNotArray)
  | some items => items.mapM (Parameter.read resolver path)

/-- The parameters that an object declares under `parameters`, none if it has no such key. -/
def Parameter.listUnder (resolver : Resolver) (path : String) (value : Json) :
    Except Failure (List Parameter) :=
  match value.get? "parameters" with
  | none => .ok []
  | some parameters => Parameter.listOf resolver path parameters

end RestModel
