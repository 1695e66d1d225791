import RestModel.Document.Declaration
import RestModel.PathEntry
import RestModel.Traced

/-!
# Reading path entries — from the document's object to verbs and parameters

Every key of a path's object that is not one of its fields must be a verb,
spelled in lowercase, over an object. Verbs keep their order, each with the
path's own parameters merged into its own. The first thing that makes no
sense ends the reading, and nothing of the entry is kept.
-/

namespace RestModel

/-- The keys that stand beside the verbs of a path: five fixed ones and any
extension. -/
def PathEntry.isField (key : String) : Bool :=
  ["parameters", "summary", "description", "servers", "$ref"].contains key ||
    ['x', '-'].isPrefixOf key.toList

/-- A field is one of the five, or its key begins with `x-`. -/
theorem PathEntry.isField_iff {key : String} :
    isField key = true ↔
      key ∈ ["parameters", "summary", "description", "servers", "$ref"] ∨
        ∃ rest, key = "x-" ++ rest := by
  have hmark : "x-".toList = ['x', '-'] := by decide
  rw [isField, Bool.or_eq_true, List.contains_iff_mem, List.isPrefixOf_iff_prefix, ← hmark]
  refine or_congr_right ⟨?_, ?_⟩
  · rintro ⟨rest, hrest⟩
    exact ⟨String.ofList rest, by simp [← String.toList_inj, ← hrest]⟩
  · rintro ⟨rest, rfl⟩
    exact ⟨rest.toList, String.toList_append.symm⟩

/-- A verb's token is no field, so any verb may stand in an item. -/
theorem PathEntry.isField_token (verb : Verb) : isField verb.token = false := by
  cases verb <;> decide

/-- What stands under a path besides its fields, in document order: its operations. -/
def PathEntry.operations (fields : List (String × Json)) : List (String × Json) :=
  fields.filter fun field => !isField field.1

/-- An operation is whatever is no field. -/
theorem PathEntry.mem_operations_iff {fields : List (String × Json)} {operation : String × Json} :
    operation ∈ operations fields ↔ operation ∈ fields ∧ isField operation.1 = false := by
  rw [operations, List.mem_filter, Bool.not_eq_true']

/-- The verb that a key and its operation declare for a path with the given
shared parameters. -/
def VerbEntry.read (resolver : Resolver) (path : String) (shared : List Parameter)
    (operation : String × Json) : Traced VerbEntry := do
  let (key, value) := operation
  let some verb := Verb.ofToken? key | Traced.fail (.unsupportedVerb path key)
  if value.asObj?.isNone then Traced.fail (.malformedOperation path (.operationNotObject verb))
  let own ← Traced.silent (Parameter.listUnder resolver path value)
  let parameters := mergeParameters shared own
  Traced.log (.verbRead path verb parameters.length)
  return { verb, parameters }

/-- The entry of a path whose item may be a reference. -/
def PathEntry.read (resolver : Resolver) (path : String) (item : Json) : Traced PathEntry := do
  let item ← Traced.silent (resolver.resolve item)
  let some fields := item.asObj? | Traced.fail (.malformedOperation path .entryNotObject)
  let shared ← Traced.silent (Parameter.listUnder resolver path item)
  let verbs ← (operations fields).mapM (VerbEntry.read resolver path shared)
  Traced.log (.pathRead path verbs.length)
  return { path, verbs }

/-- The paths of a document with their items, in document order. -/
def Json.paths? (document : Json) : Option (List (String × Json)) :=
  (document.get? "paths").bind asObj?

/-- The item of one path of a document. -/
def Json.pathItem? (document : Json) (path : String) : Option Json :=
  (document.get? "paths").bind (·.get? path)

/-- The entries of all paths of a document. -/
def PathEntry.readAll (resolver : Resolver) (document : Json) : Traced (List PathEntry) :=
  match document.paths? with
  | none => Traced.fail .noPaths
  | some paths => paths.mapM fun (path, item) => PathEntry.read resolver path item

end RestModel
