import RestModel.Proofs.Traversal
import RestModel.Document.Declaration

/-!
# Declarations — what they say, and what is wrong with the others

The rules of a parameter's declaration, said without the reader. A concrete
value declares a parameter (`Parameter.DeclaredBy`) or is at fault in one
way (`Parameter.Fault`): the faults are ordered, and each supposes that
those before it are absent. Reading answers with exactly the parameter that
is declared and exactly the fault that there is
(`Parameter.ofDeclaration_eq_ok_iff`, `Parameter.ofDeclaration_eq_error_iff`).
An item of a list may be a reference to its declaration, and a list is read
item by item up to the first fault.
-/

namespace RestModel

namespace Parameter

variable {R : Resolver} {path : String} {value : Json} {p : Parameter}

/-! ## The rules -/

/-- The schema of a declaration is the declaration itself, or what the schema
that it names resolves to. -/
inductive HasSchema (R : Resolver) (value : Json) : Json → Prop
  /-- No schema is named. -/
  | own : value.get? "schema" = none → HasSchema R value value
  /-- A schema is named, perhaps by reference. -/
  | given {named schema : Json} : value.get? "schema" = some named →
      R.resolve named = .ok schema → HasSchema R value schema

/-- A concrete value declares a parameter: it has a text for a name, the word
for a location, and a schema of a known type. -/
structure DeclaredBy (R : Resolver) (value : Json) (p : Parameter) : Prop where
  name : value.getStr? "name" = some p.name
  location : value.getStr? "in" = some p.location.token
  required : p.required = true ↔ p.location = .path ∨ value.get? "required" = some (.bool true)
  type : ∃ schema, HasSchema R value schema ∧ ParamType.ofSchema p.name schema = .ok p.type

/-- What is wrong with a concrete value that declares no parameter, in the
order in which it is looked for. -/
inductive Fault (R : Resolver) (path : String) (value : Json) : Failure → Prop
  | notObject : (∀ fields, value ≠ .obj fields) →
      Fault R path value (.malformedParameter path .notObject)
  | noName {fields : List (String × Json)} : value = .obj fields → value.getStr? "name" = none →
      Fault R path value (.malformedParameter path .noName)
  | noLocation {name : String} : value.getStr? "name" = some name → value.getStr? "in" = none →
      Fault R path value (.malformedParameter path (.noLocation name))
  | unknownLocation {name word : String} : value.getStr? "name" = some name →
      value.getStr? "in" = some word → (∀ location : Location, word ≠ location.token) →
      Fault R path value (.unknownLocation path name word)
  | schema {name : String} {location : Location} {named : Json} {failure : Failure} :
      value.getStr? "name" = some name → value.getStr? "in" = some location.token →
      value.get? "schema" = some named → R.resolve named = .error failure →
      Fault R path value failure
  | type {name : String} {location : Location} {schema : Json} {fault : ParameterFault} :
      value.getStr? "name" = some name → value.getStr? "in" = some location.token →
      HasSchema R value schema → ParamType.ofSchema name schema = .error fault →
      Fault R path value (.malformedParameter path fault)

/-! ## Reading a concrete declaration -/

/-- Being required, in words. -/
theorem isRequired_eq_true_iff {location : Location} :
    isRequired location value = true ↔
      location = .path ∨ value.get? "required" = some (.bool true) := by
  rw [isRequired, Bool.or_eq_true, beq_iff_eq]
  rcases value.get? "required" with - | (_ | b | _ | _ | _ | _) <;> simp [Json.asBool?]

/-- The schema that is found is the declaration's. -/
theorem schemaOf_eq_ok_iff {schema : Json} :
    schemaOf R value = .ok schema ↔ HasSchema R value schema := by
  rw [schemaOf]
  constructor
  · intro h
    split at h
    · exact .given ‹_› h
    · cases h
      exact .own ‹_›
  · rintro (hnone | ⟨hsome, hok⟩)
    · rw [hnone]
    · rw [hsome]
      exact hok

/-- Only a schema that is named can be missing. -/
theorem schemaOf_eq_error_iff {failure : Failure} :
    schemaOf R value = .error failure ↔
      ∃ named, value.get? "schema" = some named ∧ R.resolve named = .error failure := by
  rw [schemaOf]
  cases value.get? "schema" with
  | none => simp
  | some named => simp

/-- Only an object has fields. -/
theorem asObj?_isNone_eq_false {key text : String} (h : value.getStr? key = some text) :
    value.asObj?.isNone = false := by
  cases value with
  | obj fields => rfl
  | _ => cases h

/-- Once a declaration has its name and its location, its type is what is left to read. -/
theorem ofDeclaration_eq {name : String} {location : Location}
    (hname : value.getStr? "name" = some name)
    (hin : value.getStr? "in" = some location.token) :
    ofDeclaration R path value = (do
      let schema ← schemaOf R value
      let type ← (ParamType.ofSchema name schema).mapError (.malformedParameter path)
      return { name, location, required := isRequired location value, type }) := by
  have hloc : Location.ofToken? location.token = some location :=
    Location.ofToken?_eq_some_iff.2 rfl
  simp [ofDeclaration, asObj?_isNone_eq_false hname, hname, hin, hloc]

/-- A fault is what the reader answers with. -/
theorem ofDeclaration_eq_of_fault {failure : Failure} (h : Fault R path value failure) :
    ofDeclaration R path value = .error failure := by
  cases h with
  | notObject hobj =>
    simp [ofDeclaration, Json.asObj?_eq_none_iff.2 hobj]
  | noName hobj hname =>
    simp [ofDeclaration, hobj ▸ hname, hobj, Json.asObj?]
  | noLocation hname hin =>
    simp [ofDeclaration, asObj?_isNone_eq_false hname, hname, hin]
  | unknownLocation hname hin hword =>
    simp [ofDeclaration, asObj?_isNone_eq_false hname, hname, hin,
      Location.ofToken?_eq_none_iff.2 hword]
  | schema hname hin hnamed hresolve =>
    rw [ofDeclaration_eq hname hin, bind_eq_error_iff, schemaOf_eq_error_iff]
    exact .inl ⟨_, hnamed, hresolve⟩
  | type hname hin hschema htype =>
    rw [ofDeclaration_eq hname hin, schemaOf_eq_ok_iff.2 hschema, ok_bind, htype]
    rfl

/-- A declaration has its name and its location unless it is at fault. -/
theorem named_and_located_or_fault (R : Resolver) (path : String) (value : Json) :
    (∃ name, ∃ location : Location, value.getStr? "name" = some name ∧
      value.getStr? "in" = some location.token) ∨
    ∃ failure, Fault R path value failure := by
  by_cases hobj : ∃ fields, value = .obj fields
  · obtain ⟨fields, hobj⟩ := hobj
    -- each look-up supposes those before it, in the order of the faults
    rcases hname : value.getStr? "name" with - | name
    · exact .inr ⟨_, .noName hobj hname⟩
    rcases hin : value.getStr? "in" with - | word
    · exact .inr ⟨_, .noLocation hname hin⟩
    rcases hloc : Location.ofToken? word with - | location
    · exact .inr ⟨_, .unknownLocation hname hin (Location.ofToken?_eq_none_iff.1 hloc)⟩
    · exact .inl ⟨name, location, rfl, by rw [Location.ofToken?_eq_some_iff.1 hloc]⟩
  · exact .inr ⟨_, .notObject fun fields h => hobj ⟨fields, h⟩⟩

/-- **Reading a declaration answers with the parameter that it declares.** -/
theorem ofDeclaration_eq_ok_iff :
    ofDeclaration R path value = .ok p ↔ DeclaredBy R value p := by
  constructor
  · intro h
    rcases named_and_located_or_fault R path value with ⟨name, location, hname, hin⟩ | ⟨_, hfault⟩
    · rw [ofDeclaration_eq hname hin] at h
      simp only [bind_eq_ok_iff, schemaOf_eq_ok_iff, mapError_eq_ok_iff] at h
      obtain ⟨schema, hschema, type, htype, hp⟩ := h
      cases hp
      exact ⟨hname, hin, isRequired_eq_true_iff, schema, hschema, htype⟩
    · rw [ofDeclaration_eq_of_fault hfault] at h
      cases h
  · rintro ⟨hname, hin, hrequired, schema, hschema, htype⟩
    have hreq : isRequired p.location value = p.required :=
      Bool.eq_iff_iff.2 (isRequired_eq_true_iff.trans hrequired.symm)
    rw [ofDeclaration_eq hname hin, schemaOf_eq_ok_iff.2 hschema, ok_bind, htype, hreq]
    rfl

/-- **Reading a declaration fails with its fault**, the first in the order in
which they are looked for. -/
theorem ofDeclaration_eq_error_iff {failure : Failure} :
    ofDeclaration R path value = .error failure ↔ Fault R path value failure := by
  refine ⟨fun h => ?_, ofDeclaration_eq_of_fault⟩
  rcases named_and_located_or_fault R path value with ⟨name, location, hname, hin⟩ | ⟨_, hfault⟩
  · rw [ofDeclaration_eq hname hin] at h
    simp only [bind_eq_error_iff, schemaOf_eq_error_iff, schemaOf_eq_ok_iff,
      mapError_eq_error_iff] at h
    rcases h with ⟨named, hnamed, hresolve⟩ | ⟨schema, hschema, ⟨fault, htype, rfl⟩ | ⟨_, _, h⟩⟩
    · exact .schema hname hin hnamed hresolve
    · exact .type hname hin hschema htype
    · cases h
  · -- a value has one fault, since the reader gives one answer
    have hsame := (ofDeclaration_eq_of_fault hfault).symm.trans h
    cases hsame
    exact hfault

/-! ## Items and lists -/

/-- An item of a list stands for a parameter: what it resolves to declares it. -/
def ReadsAs (R : Resolver) (item : Json) (p : Parameter) : Prop :=
  ∃ value, R.resolve item = .ok value ∧ DeclaredBy R value p

/-- An item of a list is refused: it does not resolve, or to a value at fault. -/
inductive Refused (R : Resolver) (path : String) (item : Json) : Failure → Prop
  | unresolved {failure : Failure} : R.resolve item = .error failure → Refused R path item failure
  | fault {value : Json} {failure : Failure} : R.resolve item = .ok value →
      Fault R path value failure → Refused R path item failure

/-- The `parameters` of an object stand for a list of parameters: there are
none, or every item of the array stands for one. -/
inductive ListReadsAs (R : Resolver) (value : Json) : List Parameter → Prop
  | absent : value.get? "parameters" = none → ListReadsAs R value []
  | items {items : List Json} {ps : List Parameter} : value.get? "parameters" = some (.arr items) →
      List.Forall₂ (ReadsAs R) items ps → ListReadsAs R value ps

/-- The `parameters` of an object are refused: they are no array, or an item
is refused after items that are not. -/
inductive ListRefused (R : Resolver) (path : String) (value : Json) : Failure → Prop
  | notArray {entry : Json} : value.get? "parameters" = some entry →
      (∀ items, entry ≠ .arr items) →
      ListRefused R path value (.malformedOperation path .parametersNotArray)
  | item {items : List Json} {failure : Failure} : value.get? "parameters" = some (.arr items) →
      FirstFails (fun item => ∃ p, ReadsAs R item p) (Refused R path · failure) items →
      ListRefused R path value failure

/-- Reading an item answers with the parameter that it stands for. -/
theorem read_eq_ok_iff {item : Json} : Parameter.read R path item = .ok p ↔ ReadsAs R item p := by
  simp only [Parameter.read, bind_eq_ok_iff, ofDeclaration_eq_ok_iff, ReadsAs]

/-- Reading an item fails as it is refused. -/
theorem read_eq_error_iff {item : Json} {failure : Failure} :
    Parameter.read R path item = .error failure ↔ Refused R path item failure := by
  simp only [Parameter.read, bind_eq_error_iff, ofDeclaration_eq_error_iff]
  constructor
  · rintro (h | ⟨value, hvalue, hfault⟩)
    · exact .unresolved h
    · exact .fault hvalue hfault
  · rintro (h | ⟨hvalue, hfault⟩)
    · exact .inl h
    · exact .inr ⟨_, hvalue, hfault⟩

/-- A list is read if it is an array and each of its items is. -/
theorem listOf_eq_ok_iff {entry : Json} {ps : List Parameter} :
    listOf R path entry = .ok ps ↔
      ∃ items, entry = .arr items ∧ List.Forall₂ (ReadsAs R) items ps := by
  rw [listOf]
  rcases harr : entry.asArr? with - | items
  · simp [Json.asArr?_eq_none_iff.1 harr]
  · simp [Json.asArr?_eq_some_iff.1 harr, mapM_eq_ok_iff, read_eq_ok_iff]

/-- A list is refused if it is no array or one of its items is refused. -/
theorem listOf_eq_error_iff {entry : Json} {failure : Failure} :
    listOf R path entry = .error failure ↔
      (∀ items, entry ≠ .arr items) ∧ .malformedOperation path .parametersNotArray = failure ∨
      ∃ items, entry = .arr items ∧
        FirstFails (fun item => ∃ p, ReadsAs R item p) (Refused R path · failure) items := by
  rw [listOf]
  rcases harr : entry.asArr? with - | items
  · simp [Json.asArr?_eq_none_iff.1 harr]
  · simp [Json.asArr?_eq_some_iff.1 harr, mapM_eq_error_iff, read_eq_ok_iff, read_eq_error_iff]

/-- Reading `parameters` answers with the list that they stand for. -/
theorem listUnder_eq_ok_iff {ps : List Parameter} :
    listUnder R path value = .ok ps ↔ ListReadsAs R value ps := by
  rw [listUnder]
  rcases hentry : value.get? "parameters" with - | entry
  · constructor
    · rintro ⟨⟩
      exact .absent hentry
    · rintro (_ | ⟨hitems, _⟩)
      · rfl
      · simp [hentry] at hitems
  · simp only [listOf_eq_ok_iff]
    constructor
    · rintro ⟨items, rfl, hitems⟩
      exact .items hentry hitems
    · rintro (hnone | ⟨hsome, hitems⟩)
      · simp [hentry] at hnone
      · exact ⟨_, Option.some.inj (hentry.symm.trans hsome), hitems⟩

/-- Reading `parameters` fails as they are refused. -/
theorem listUnder_eq_error_iff {failure : Failure} :
    listUnder R path value = .error failure ↔ ListRefused R path value failure := by
  rw [listUnder]
  rcases hentry : value.get? "parameters" with - | entry
  · constructor
    · rintro ⟨⟩
    · rintro (⟨hsome, _⟩ | ⟨hsome, _⟩) <;> simp [hentry] at hsome
  · simp only [listOf_eq_error_iff]
    constructor
    · rintro (⟨hentry', rfl⟩ | ⟨items, rfl, hitems⟩)
      · exact .notArray hentry hentry'
      · exact .item hentry hitems
    · rintro (⟨hsome, harr⟩ | ⟨hsome, hitems⟩)
      · exact .inl ⟨Option.some.inj (hentry.symm.trans hsome) ▸ harr, rfl⟩
      · exact .inr ⟨_, Option.some.inj (hentry.symm.trans hsome), hitems⟩

end Parameter

end RestModel
