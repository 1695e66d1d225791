import RestModel.Proofs.Entry
import RestModel.Proofs.Fields
import RestModel.Proofs.Reference

/-!
# Inlining — references abbreviate, and nothing else

An item, the entries of its parameter lists and their schemas may be
references. Inlining writes at each of these places what the value there
resolves to. Where all of them resolve, the inlined item is read without any
resolver just as the item is read with its own (`PathEntry.read_inline`), and
whatever else the resolver may hold is no matter.
-/

namespace RestModel

namespace Resolver

variable {R R' : Resolver} {value concrete : Json}

/-! ## What is inlined, and when it can be -/

/-- A value resolves. -/
def Resolves (R : Resolver) (value : Json) : Prop := ∃ target, R.resolve value = .ok target

/-- What a value resolves to. A value that does not resolve stands for itself. -/
def target (R : Resolver) (value : Json) : Json :=
  match R.resolve value with
  | .ok target => target
  | .error _ => value

/-- An entry of a parameter list, inlined: the parameter that it refers to,
with its schema written out. -/
def inlineItem (R : Resolver) (item : Json) : Json :=
  (R.target item).mapUnder "schema" R.target

/-- An object with its list of parameters inlined. -/
def inlineList (R : Resolver) (object : Json) : Json :=
  object.mapUnder "parameters" (Json.mapItems R.inlineItem)

/-- What stands under a key of a path's object, inlined: the path's own list
of parameters, or an operation. -/
def inlineField (R : Resolver) (key : String) (value : Json) : Json :=
  if key = "parameters" then value.mapItems R.inlineItem
  else if (Verb.ofToken? key).isSome then R.inlineList value
  else value

/-- A path's item, inlined: the object that it refers to, with its own list
of parameters and those of its operations inlined. -/
def inline (R : Resolver) (item : Json) : Json := (R.target item).mapFields R.inlineField

/-- An entry of a parameter list resolves, and so does its schema. -/
def CoversItem (R : Resolver) (item : Json) : Prop :=
  R.Resolves item ∧ ∀ schema, (R.target item).HasField "schema" schema → R.Resolves schema

/-- All entries of an object's list of parameters resolve with their schemas. -/
def CoversList (R : Resolver) (object : Json) : Prop :=
  ∀ items, object.HasField "parameters" (.arr items) → ∀ item ∈ items, R.CoversItem item

/-- A path's item resolves, and so do the entries and the schemas in its own
list of parameters and in those of its operations. -/
def Covers (R : Resolver) (item : Json) : Prop :=
  R.Resolves item ∧ R.CoversList (R.target item) ∧
    ∀ (verb : Verb) (operation : Json),
      (R.target item).HasField verb.token operation → R.CoversList operation

/-! ## Resolving what is inlined -/

theorem target_eq (h : R.resolve value = .ok concrete) : R.target value = concrete := by
  rw [target, h]

theorem resolve_eq_target (h : R.Resolves value) : R.resolve value = .ok (R.target value) := by
  obtain ⟨concrete, hconcrete⟩ := h
  rw [target_eq hconcrete, hconcrete]

/-- What a value resolves to needs no resolver. -/
theorem resolve_target (h : R.Resolves value) :
    R'.resolve (R.target value) = .ok (R.target value) := by
  obtain ⟨concrete, hconcrete⟩ := h
  rw [target_eq hconcrete]
  exact resolve_of_concrete (concrete_of_resolve hconcrete)

/-- Rewriting that leaves `$ref` alone makes no reference of a value. -/
theorem resolve_mapFields {f : String → Json → Json} (hf : ∀ field, f "$ref" field = field)
    (h : R.resolve value = .ok concrete) :
    R'.resolve (concrete.mapFields f) = .ok (concrete.mapFields f) := by
  refine resolve_of_concrete ?_
  have hsame : (concrete.mapFields f).reference? = concrete.reference? := by
    rw [Json.reference?, Json.getStr?, Json.get?_mapFields, funext hf]
    exact congrArg (Option.bind · Json.asStr?) Option.map_id'
  rw [hsame]
  exact concrete_of_resolve h

end Resolver

/-! ## Parameters -/

section

variable {R R' : Resolver} {path : String} {value : Json}

/-- A declaration whose schema is written out declares the same. -/
theorem Parameter.schemaOf_mapUnder
    (h : ∀ schema, value.HasField "schema" schema → R.Resolves schema) :
    schemaOf R' (value.mapUnder "schema" R.target) = schemaOf R value := by
  rcases hschema : value.get? "schema" with - | schema
  · rw [Json.mapUnder_of_absent hschema, schemaOf, schemaOf, hschema]
  · have hresolves := h schema (Json.hasField_of_get? hschema)
    rw [schemaOf, schemaOf, Json.get?_mapUnder_self, hschema]
    simp only [Option.map_some]
    rw [Resolver.resolve_target hresolves, ← Resolver.resolve_eq_target hresolves]

/-- The schema is the only part of a declaration that may be a reference. -/
theorem Parameter.ofDeclaration_mapUnder
    (h : ∀ schema, value.HasField "schema" schema → R.Resolves schema) :
    ofDeclaration R' path (value.mapUnder "schema" R.target) = ofDeclaration R path value := by
  simp only [ofDeclaration, Json.asObj?_isNone_mapUnder, isRequired, schemaOf_mapUnder h,
    Json.getStr?_mapUnder_of_ne (by decide : "name" ≠ "schema"),
    Json.getStr?_mapUnder_of_ne (by decide : "in" ≠ "schema"),
    Json.get?_mapUnder_of_ne (by decide : "required" ≠ "schema")]

/-- **An inlined entry is read as the entry is.** -/
theorem Parameter.read_inlineItem {item : Json} (h : R.CoversItem item) :
    Parameter.read R' path (R.inlineItem item) = Parameter.read R path item := by
  obtain ⟨hitem, hschema⟩ := h
  have hinline : R'.resolve (R.inlineItem item) = .ok (R.inlineItem item) := by
    rw [Resolver.inlineItem, Json.mapUnder]
    refine Resolver.resolve_mapFields (fun field => ?_) (Resolver.resolve_eq_target hitem)
    exact if_neg (by decide)
  rw [Parameter.read, Parameter.read, hinline, Resolver.resolve_eq_target hitem, ok_bind, ok_bind,
    Resolver.inlineItem]
  exact ofDeclaration_mapUnder hschema

/-- A list whose entries are inlined is read as the list is. -/
theorem Parameter.listOf_mapItems
    (h : ∀ items, value = .arr items → ∀ item ∈ items, R.CoversItem item) :
    listOf R' path (value.mapItems R.inlineItem) = listOf R path value := by
  rw [listOf, listOf, Json.asArr?_mapItems]
  rcases hitems : value.asArr? with - | items
  · rfl
  · simp only [Option.map_some, List.mapM_map]
    exact mapM_congr fun item hitem =>
      read_inlineItem (h items (Json.asArr?_eq_some_iff.1 hitems) item hitem)

/-- **An object with its list inlined has the parameters that it had.** -/
theorem Parameter.listUnder_inline {object object' : Json} (h : R.CoversList object)
    (hget : object'.get? "parameters" =
      (object.get? "parameters").map (Json.mapItems R.inlineItem)) :
    listUnder R' path object' = listUnder R path object := by
  rw [listUnder, listUnder, hget]
  rcases hentry : object.get? "parameters" with - | entry
  · rfl
  · refine listOf_mapItems fun items hitems => ?_
    subst hitems
    exact h items (Json.hasField_of_get? hentry)

/-! ## Entries -/

/-- A path's own parameters stand under no verb's token, since that is no field. -/
theorem Verb.token_ne_parameters (verb : Verb) : verb.token ≠ "parameters" := by
  intro h
  have hfield : PathEntry.isField verb.token = true :=
    PathEntry.isField_iff.2 (.inl (h ▸ List.mem_cons_self))
  rw [PathEntry.isField_token] at hfield
  cases hfield

/-- **An inlined operation is read as the operation is.** Under a key that is
no verb's nothing is inlined, and nothing is read. -/
theorem VerbEntry.read_inlineField {shared : List Parameter} {key : String}
    (h : ∀ verb : Verb, key = verb.token → R.CoversList value) :
    VerbEntry.read R' path shared (key, R.inlineField key value) =
      VerbEntry.read R path shared (key, value) := by
  rcases hverb : Verb.ofToken? key with - | verb
  · simp only [VerbEntry.read, hverb]
  · have hkey := Verb.ofToken?_eq_some_iff.1 hverb
    have hfield : R.inlineField key value = R.inlineList value := by
      rw [Resolver.inlineField, if_neg (hkey ▸ verb.token_ne_parameters), hverb]
      rfl
    have hlist : Parameter.listUnder R' path (R.inlineList value) =
        Parameter.listUnder R path value :=
      Parameter.listUnder_inline (h verb hkey) Json.get?_mapUnder_self
    have hobj : (R.inlineList value).asObj?.isNone = value.asObj?.isNone :=
      Json.asObj?_isNone_mapUnder
    simp only [VerbEntry.read, hverb, hfield, hlist, hobj]

namespace PathEntry

/-- The operations of a rewritten object are the rewritten operations. -/
theorem operations_map (f : String → Json → Json) (fields : List (String × Json)) :
    operations (fields.map fun field => (field.1, f field.1 field.2)) =
      (operations fields).map fun field => (field.1, f field.1 field.2) := by
  rw [operations, List.filter_map]
  rfl

/-- An inlined item is read as the item is, by any resolver. -/
theorem read_inline_eq {item : Json} (h : R.Covers item) :
    read R' path (R.inline item) = read R path item := by
  obtain ⟨hitem, hlist, hops⟩ := h
  have hresolve := Resolver.resolve_eq_target hitem
  have hinline : R'.resolve (R.inline item) = .ok (R.inline item) :=
    Resolver.resolve_mapFields (fun field => rfl) hresolve
  rcases hobj : (R.target item).asObj? with - | fields
  · have hnone : (R.inline item).asObj? = none := by
      rw [Resolver.inline, Json.asObj?_mapFields, hobj]
      rfl
    rw [Json.asObj?_eq_none_iff] at hobj hnone
    rw [read_of_not_obj hinline hnone, read_of_not_obj hresolve hobj]
  · rw [Json.asObj?_eq_some_iff] at hobj
    have hmap : R.inline item =
        .obj (fields.map fun field => (field.1, R.inlineField field.1 field.2)) := by
      rw [Resolver.inline, hobj, Json.mapFields]
    have hshared : Parameter.listUnder R' path (R.inline item) =
        Parameter.listUnder R path (R.target item) :=
      Parameter.listUnder_inline hlist Json.get?_mapFields
    -- the two objects differ only in what stands under their keys
    rw [hmap] at hinline hshared ⊢
    rw [hobj] at hresolve hshared
    rw [read_eq hinline, read_eq hresolve, hshared, operations_map]
    refine bind_congr fun shared => ?_
    rw [List.mapM_map, mapM_congr fun operation hop => ?_]
    exact VerbEntry.read_inlineField fun verb hkey =>
      hops verb operation.2 ⟨fields, hobj, hkey ▸ (mem_operations_iff.1 hop).1⟩

end PathEntry

/-! ## Resolvers that hold more -/

namespace Resolver

variable (hR : R.ExtendedBy R')
include hR

/-- A resolver that holds more resolves to the same values. -/
theorem target_extend (h : R.Resolves value) : R'.target value = R.target value :=
  target_eq (resolve_extend hR (resolve_eq_target h))

theorem resolves_extend (h : R.Resolves value) : R'.Resolves value :=
  ⟨_, resolve_extend hR (resolve_eq_target h)⟩

theorem coversItem_extend {item : Json} (h : R.CoversItem item) : R'.CoversItem item := by
  obtain ⟨hitem, hschema⟩ := h
  refine ⟨resolves_extend hR hitem, fun schema hfield => resolves_extend hR (hschema schema ?_)⟩
  rwa [target_extend hR hitem] at hfield

theorem coversList_extend {object : Json} (h : R.CoversList object) : R'.CoversList object :=
  fun items hitems item hitem => coversItem_extend hR (h items hitems item hitem)

/-- What a resolver covers, one that holds more covers. -/
theorem covers_extend {item : Json} (h : R.Covers item) : R'.Covers item := by
  obtain ⟨hitem, hlist, hops⟩ := h
  rw [Covers, target_extend hR hitem]
  exact ⟨resolves_extend hR hitem, coversList_extend hR hlist,
    fun verb operation hop => coversList_extend hR (hops verb operation hop)⟩

theorem inlineItem_extend {item : Json} (h : R.CoversItem item) :
    R'.inlineItem item = R.inlineItem item := by
  rw [inlineItem, inlineItem, target_extend hR h.1]
  exact Json.mapUnder_congr fun schema hschema => target_extend hR (h.2 schema hschema)

theorem inlineList_extend {object : Json} (h : R.CoversList object) :
    R'.inlineList object = R.inlineList object := by
  refine Json.mapUnder_congr fun entry hentry => ?_
  refine Json.mapItems_congr fun items hitems item hitem => ?_
  exact inlineItem_extend hR (h items (hitems ▸ hentry) item hitem)

/-- What a resolver covers, one that holds more inlines alike. -/
theorem inline_extend {item : Json} (h : R.Covers item) : R'.inline item = R.inline item := by
  obtain ⟨hitem, hlist, hops⟩ := h
  rw [inline, inline, target_extend hR hitem]
  refine Json.mapFields_congr fun key field hfield => ?_
  rw [inlineField, inlineField]
  split
  · next hkey =>
    refine Json.mapItems_congr fun items hitems item hitem => inlineItem_extend hR ?_
    exact hlist items (hkey ▸ hitems ▸ hfield) item hitem
  · rcases hverb : Verb.ofToken? key with - | verb
    · rw [Option.isSome_none, if_neg Bool.false_ne_true, if_neg Bool.false_ne_true]
    · have hkey := Verb.ofToken?_eq_some_iff.1 hverb
      rw [if_pos Option.isSome_some, if_pos Option.isSome_some]
      exact inlineList_extend hR (hops verb field (hkey ▸ hfield))

end Resolver

/-- **References abbreviate, and nothing else.** Where a path's item resolves
with all entries and schemas of its parameter lists, it is read as its
inlined form is read without any reference to follow, down to what is logged
and to the failure if there is one. What else the resolver may hold does not
count. -/
theorem PathEntry.read_inline {item : Json} (h : R.Covers item) (path : String) :
    read R path item = read (Resolver.ofTable []) path (R.inline item) ∧
      ∀ R', R.ExtendedBy R' → read R' path item = read R path item := by
  refine ⟨(read_inline_eq h).symm, fun R' hR => ?_⟩
  calc read R' path item
      = read R path (R'.inline item) := (read_inline_eq (Resolver.covers_extend hR h)).symm
    _ = read R path (R.inline item) := by rw [Resolver.inline_extend hR h]
    _ = read R path item := read_inline_eq h

/-- A short document's item, parameter and schema, each of which refers to
the next. -/
def sampleResolver : Resolver := Resolver.ofTable
  [("#/item", .obj [("get", .obj [("parameters", .arr [.obj [("$ref", .str "#/id")]])])]),
    ("#/id", .obj [("name", .str "id"), ("in", .str "path"),
      ("schema", .obj [("$ref", .str "#/text")])]),
    ("#/text", .obj [("type", .str "string")])]

theorem sampleResolver_coversItem : sampleResolver.CoversItem (.obj [("$ref", .str "#/id")]) := by
  refine ⟨⟨_, rfl⟩, ?_⟩
  rintro schema ⟨fields, ⟨⟩, hschema⟩
  have hrest : schema = .obj [("$ref", .str "#/text")] := by simpa using hschema
  rw [hrest]
  exact ⟨_, rfl⟩

theorem sampleResolver_covers : sampleResolver.Covers (.obj [("$ref", .str "#/item")]) := by
  refine ⟨⟨_, rfl⟩, ?_, ?_⟩
  · rintro items ⟨fields, ⟨⟩, hitems⟩
    simp at hitems
  · rintro verb operation ⟨fields, ⟨⟩, hop⟩ items ⟨inner, hinner, hitems⟩ item hitem
    rw [List.mem_singleton, Prod.mk.injEq] at hop
    obtain ⟨-, rfl⟩ := hop
    cases hinner
    have hsame : items = [.obj [("$ref", .str "#/id")]] := by simpa using hitems
    rw [hsame, List.mem_singleton] at hitem
    exact hitem ▸ sampleResolver_coversItem

/-- An item that is a reference, over a parameter that is one, over a schema
that is one. -/
theorem PathEntry.read_inline_sample :
    sampleResolver.Covers (.obj [("$ref", .str "#/item")]) ∧
      (read sampleResolver "/x" (.obj [("$ref", .str "#/item")])).outcome =
        .ok ⟨"/x", [⟨.get, [⟨"id", .path, true, .string⟩]⟩]⟩ ∧
      read sampleResolver "/x" (.obj [("$ref", .str "#/item")]) =
        read (Resolver.ofTable []) "/x"
          (sampleResolver.inline (.obj [("$ref", .str "#/item")])) :=
  ⟨sampleResolver_covers, by decide +kernel, (read_inline sampleResolver_covers "/x").1⟩

end

end RestModel
