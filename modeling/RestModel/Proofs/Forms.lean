import RestModel.Proofs.Declaration
import RestModel.Proofs.Fields
import RestModel.Proofs.Reference

/-!
# Forms — a type in the declaration, or in a schema of its own

A declaration without a schema says its parameter's type itself. Moving what
says the type into a schema makes a declaration of the newer form, which is
read alike, faults included; in that form nothing but the schema says the type.
An array of types stands for its first text that is not `null`
(`Parameter.ofDeclaration_forms`).
-/

namespace RestModel

variable {R : Resolver} {path name word : String} {fields fields' : List (String × Json)}
  {value value' : Json} {types : List Json} {tag : ParamType}

theorem Json.asStr?_eq_some_iff {text : String} : value.asStr? = some text ↔ value = .str text := by
  cases value <;> simp [asStr?]

/-! ## What says a type -/

namespace ParamType

/-- The keys that say of which type something is. -/
def keys : List String := "type" :: "items" :: objectKeys

/-- Nothing but these keys says a type. -/
theorem ofSchema_congr (h : ∀ key ∈ keys, value.get? key = value'.get? key) :
    ofSchema name value = ofSchema name value' := by
  have htype : value.get? "type" = value'.get? "type" := h "type" (by decide)
  have hitems : value.get? "items" = value'.get? "items" := h "items" (by decide)
  have hobject : (objectKeys.any fun key => (value.get? key).isSome) =
      objectKeys.any fun key => (value'.get? key).isSome := by
    rw [Bool.eq_iff_iff, List.any_eq_true, List.any_eq_true]
    refine exists_congr fun key => and_congr_right fun hkey => ?_
    rw [h key (by simp [keys, hkey])]
  rw [ofSchema, ofSchema, htype, hitems, hobject]

/-- The first text of a list of types that is not `null`. -/
def FirstWord (types : List Json) (word : String) : Prop :=
  word ≠ "null" ∧ ∃ before after, types = before ++ .str word :: after ∧
    ∀ item ∈ before, ∀ text, item = .str text → text = "null"

/-- Such a text is what the search among the texts finds. -/
theorem find?_texts_eq_some_iff :
    ((types.filterMap Json.asStr?).find? (· != "null")) = some word ↔ FirstWord types word := by
  rw [List.find?_filterMap, Option.bind_eq_some_iff]
  simp only [List.find?_eq_some_iff_append, Json.asStr?_eq_some_iff, FirstWord]
  constructor
  · rintro ⟨_, ⟨hword, before, after, rfl, hbefore⟩, rfl⟩
    refine ⟨by simpa [Json.asStr?] using hword, before, after, rfl, ?_⟩
    rintro _ hitem text rfl
    simpa [Json.asStr?] using hbefore _ hitem
  · rintro ⟨hword, before, after, rfl, hbefore⟩
    refine ⟨_, ⟨by simpa [Json.asStr?] using hword, before, after, rfl, fun item hitem => ?_⟩, rfl⟩
    cases item with
    | str text => simpa [Json.asStr?] using hbefore _ hitem text rfl
    | _ => rfl

/-- A text for a type has to be a word that is known. -/
theorem ofSchema_of_word (h : value.get? "type" = some (.str word)) :
    ofSchema name value = .ok tag ↔ ofSchemaType? word = some tag := by
  rw [ofSchema, h]
  dsimp only
  cases ofSchemaType? word <;> simp

/-- An array of types is of the type that its first word stands for. -/
theorem ofSchema_of_types (h : value.get? "type" = some (.arr types)) :
    ofSchema name value =
      (((types.filterMap Json.asStr?).find? (· != "null")).bind ofSchemaType?).elim
        (.error (.noUsableType name)) .ok := by
  rw [ofSchema, h]
  dsimp only
  cases ((types.filterMap Json.asStr?).find? (· != "null")).bind ofSchemaType? <;> rfl

/-- **Of an array of types only the first word matters**: the array is read as
that word alone would be. -/
theorem ofSchema_types_eq_ok_iff (h : (Json.obj fields).get? "type" = some (.arr types)) :
    ofSchema name (.obj fields) = .ok tag ↔ ∃ word, FirstWord types word ∧
      ofSchema name (.obj (setField fields "type" (.str word))) = .ok tag := by
  rw [ofSchema_of_types h, elim_eq_ok_iff, Option.bind_eq_some_iff]
  refine exists_congr fun word => ?_
  have hword : (Json.obj (setField fields "type" (.str word))).get? "type" = some (.str word) := by
    rw [Json.get?, lookup_setField, if_pos rfl]
  rw [find?_texts_eq_some_iff, ofSchema_of_word hword]

/-- An array of types that is not accepted is refused as a whole. -/
theorem ofSchema_types_eq_error (h : (Json.obj fields).get? "type" = some (.arr types))
    (hnone : ∀ tag, ofSchema name (.obj fields) ≠ .ok tag) :
    ofSchema name (.obj fields) = .error (.noUsableType name) := by
  rw [ofSchema_of_types h] at hnone ⊢
  cases hfirst : ((types.filterMap Json.asStr?).find? (· != "null")).bind ofSchemaType? with
  | none => rfl
  | some tag => exact absurd (by rw [hfirst]; rfl) (hnone tag)

end ParamType

/-! ## The two forms of a declaration -/

namespace Parameter

/-- A key says of which type something is. -/
def saysType (key : String) : Bool := ParamType.keys.contains key

/-- What says the type of a declaration, as a schema. -/
def ownSchema (fields : List (String × Json)) : Json :=
  .obj (fields.filter fun field => saysType field.1)

/-- A declaration in the newer form: what says its type stands under `schema`. -/
def withSchema (fields : List (String × Json)) : Json :=
  .obj (setField (fields.filter fun field => !saysType field.1) "schema" (ownSchema fields))

theorem get?_ownSchema {key : String} :
    (ownSchema fields).get? key = if saysType key then (Json.obj fields).get? key else none :=
  lookup_filter_keys saysType

/-- Every other key but `schema` has in the newer form what it has in the older one. -/
theorem get?_withSchema {key : String} (hkey : saysType key = false) (hne : key ≠ "schema") :
    (withSchema fields).get? key = (Json.obj fields).get? key := by
  rw [withSchema, Json.get?, lookup_setField, if_neg hne,
    lookup_filter_keys fun key => !saysType key, hkey]
  rfl

theorem getStr?_withSchema {key : String} (hkey : saysType key = false) (hne : key ≠ "schema") :
    (withSchema fields).getStr? key = (Json.obj fields).getStr? key := by
  rw [Json.getStr?, get?_withSchema hkey hne, Json.getStr?]

/-- The new schema is no reference, since only what says a type is in it. -/
theorem schemaOf_withSchema : schemaOf R (withSchema fields) = .ok (ownSchema fields) := by
  have hschema : (withSchema fields).get? "schema" = some (ownSchema fields) := by
    rw [withSchema, Json.get?, lookup_setField, if_pos rfl]
  have hconcrete : (ownSchema fields).reference? = none := by
    rw [Json.reference?, Json.getStr?, get?_ownSchema, if_neg (by decide)]
    rfl
  rw [schemaOf, hschema]
  exact Resolver.resolve_of_concrete hconcrete

/-- **The older form is read as the newer one.** -/
theorem ofDeclaration_withSchema (h : (Json.obj fields).get? "schema" = none) :
    ofDeclaration R path (withSchema fields) = ofDeclaration R path (.obj fields) := by
  have hown : schemaOf R (.obj fields) = .ok (.obj fields) := by
    rw [schemaOf, h]
  have htype : ∀ name, ParamType.ofSchema name (ownSchema fields) =
      ParamType.ofSchema name (.obj fields) := fun name =>
    ParamType.ofSchema_congr fun key hkey => by
      have hsays : saysType key = true := List.contains_iff_mem.2 hkey
      rw [get?_ownSchema, if_pos hsays]
  have hobject : (withSchema fields).asObj?.isNone = (Json.obj fields).asObj?.isNone := rfl
  simp only [ofDeclaration, hobject, hown, schemaOf_withSchema, htype, ok_bind, isRequired,
    getStr?_withSchema (by decide : saysType "name" = false) (by decide),
    getStr?_withSchema (by decide : saysType "in" = false) (by decide),
    get?_withSchema (by decide : saysType "required" = false) (by decide)]

/-- So is an item of a list that is such a declaration and no reference. -/
theorem read_withSchema (hconcrete : (Json.obj fields).reference? = none)
    (h : (Json.obj fields).get? "schema" = none) :
    Parameter.read R path (withSchema fields) = Parameter.read R path (.obj fields) := by
  have hconcrete' : (withSchema fields).reference? = none := by
    rw [Json.reference?, getStr?_withSchema (by decide) (by decide)]
    exact hconcrete
  rw [Parameter.read, Parameter.read, Resolver.resolve_of_concrete hconcrete,
    Resolver.resolve_of_concrete hconcrete', ok_bind, ok_bind, ofDeclaration_withSchema h]

/-- **Beside a schema nothing but the name, the location and `required` counts.** -/
theorem ofDeclaration_congr (hschema : (Json.obj fields).get? "schema" = some value)
    (h : ∀ key ∈ ["name", "in", "required", "schema"],
      (Json.obj fields).get? key = (Json.obj fields').get? key) :
    ofDeclaration R path (.obj fields) = ofDeclaration R path (.obj fields') := by
  have hname := h "name" (by decide)
  have hin := h "in" (by decide)
  have hrequired := h "required" (by decide)
  have hsame := h "schema" (by decide)
  have hschemaOf : schemaOf R (.obj fields) = schemaOf R (.obj fields') := by
    rw [schemaOf, schemaOf, ← hsame, hschema]
  have hobject : (Json.obj fields).asObj?.isNone = (Json.obj fields').asObj?.isNone := rfl
  simp only [ofDeclaration, hobject, Json.getStr?, isRequired, hname, hin, hrequired, hschemaOf]

/-- **Two forms, one type.** A declaration without a schema is read, accepted or
refused, just as the one with a schema made of what says its type. Beside a
schema no other field counts than the name, the location and `required`. An
array of types is accepted just if its first text other than `null` would be,
and as the same type; otherwise it is refused as unusable. -/
theorem ofDeclaration_forms (R : Resolver) (path : String) :
    (∀ fields, (Json.obj fields).get? "schema" = none →
      ofDeclaration R path (.obj fields) = ofDeclaration R path (withSchema fields) ∧
      ((Json.obj fields).reference? = none →
        Parameter.read R path (.obj fields) = Parameter.read R path (withSchema fields))) ∧
    (∀ fields fields' schema, (Json.obj fields).get? "schema" = some schema →
      (∀ key ∈ ["name", "in", "required", "schema"],
        (Json.obj fields).get? key = (Json.obj fields').get? key) →
      ofDeclaration R path (.obj fields) = ofDeclaration R path (.obj fields')) ∧
    ∀ name fields types, (Json.obj fields).get? "type" = some (.arr types) →
      (∀ tag, ParamType.ofSchema name (.obj fields) = .ok tag ↔
        ∃ word, ParamType.FirstWord types word ∧
          ParamType.ofSchema name (.obj (setField fields "type" (.str word))) = .ok tag) ∧
      ((∀ tag, ParamType.ofSchema name (.obj fields) ≠ .ok tag) →
        ParamType.ofSchema name (.obj fields) = .error (.noUsableType name)) :=
  ⟨fun _ hnone => ⟨(ofDeclaration_withSchema hnone).symm,
      fun hconcrete => (read_withSchema hconcrete hnone).symm⟩,
    fun _ _ _ hschema hsame => ofDeclaration_congr hschema hsame,
    fun _ _ _ htypes =>
      ⟨fun _ => ParamType.ofSchema_types_eq_ok_iff htypes, ParamType.ofSchema_types_eq_error htypes⟩⟩

/-- A declaration in the older form, with more than one type and items that are null. -/
def sampleIds : List (String × Json) :=
  [("name", .str "ids"), ("type", .arr [.str "null", .bool true, .str "array", .str "tuple"]),
    ("in", .str "query"), ("items", .null)]

/-- The same in the newer form, in another order and with a type beside the schema. -/
def sampleBeside : List (String × Json) :=
  [("schema", ownSchema sampleIds), ("type", .str "integer"), ("in", .str "query"),
    ("format", .null), ("name", .str "ids")]

/-- Both forms declare an array, the first type that is a text other than `null`,
and so does the newer one whatever stands beside its schema. Where the first such
text is no type, the second does not help. -/
theorem ofDeclaration_forms_sample :
    ParamType.FirstWord [.str "null", .bool true, .str "array", .str "tuple"] "array" ∧
      ofDeclaration (fun _ => none) "/a" (.obj sampleIds) =
        .ok ⟨"ids", .query, false, .array⟩ ∧
      ofDeclaration (fun _ => none) "/a" (withSchema sampleIds) =
        .ok ⟨"ids", .query, false, .array⟩ ∧
      (Json.obj sampleBeside).get? "schema" = some (ownSchema sampleIds) ∧
      ofDeclaration (fun _ => none) "/a" (.obj sampleBeside) =
        .ok ⟨"ids", .query, false, .array⟩ ∧
      ParamType.ofSchema "ids" (.obj sampleIds) = .ok .array ∧
      ParamType.ofSchema "ids" (.obj [("type", .arr [.str "null", .str "tuple", .str "array"])]) =
        .error (.noUsableType "ids") := by
  have hfirst :
      ParamType.FirstWord [.str "null", .bool true, .str "array", .str "tuple"] "array" :=
    ⟨by decide, [.str "null", .bool true], [.str "tuple"], rfl, by simp⟩
  have holder : ofDeclaration (fun _ => none) "/a" (.obj sampleIds) =
      .ok ⟨"ids", .query, false, .array⟩ := rfl
  obtain ⟨hforms, hbeside, htypes⟩ := ofDeclaration_forms (fun _ => none) "/a"
  have hnewer : ofDeclaration (fun _ => none) "/a" (withSchema sampleIds) =
      .ok ⟨"ids", .query, false, .array⟩ := (hforms sampleIds rfl).1 ▸ holder
  have hsame : ∀ key ∈ ["name", "in", "required", "schema"],
      (Json.obj sampleBeside).get? key = (withSchema sampleIds).get? key := by
    simp only [List.forall_mem_cons]
    exact ⟨rfl, rfl, rfl, rfl, List.forall_mem_nil _⟩
  have harray := ((htypes "ids" sampleIds _ rfl).1 .array).2 ⟨"array", hfirst, rfl⟩
  have hunusable :=
    (htypes "ids" [("type", .arr [.str "null", .str "tuple", .str "array"])] _ rfl).2 nofun
  exact ⟨hfirst, holder, hnewer, rfl, (hbeside _ _ _ rfl hsame).trans hnewer, harray, hunusable⟩

end Parameter

end RestModel
