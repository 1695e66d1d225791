import RestModel.Proofs.Declaration
import RestModel.Document.Entry

/-!
# Path entries — which items are read, as what, and how the others fail

The rules of a path's item, said without the reader: the item resolves to an
object, its own parameters are read first, and then its operations in
document order, whatever is no field (`PathEntry.isField_iff`), each a verb
over an object with parameters of its own. An item that obeys the rules is
one path entry (`PathEntry.ReadsAs`); any other is refused for the first rule
that it breaks (`PathEntry.Refused`). Reading answers with exactly that entry
and exactly that failure (`PathEntry.read_exact`).
-/

namespace RestModel

/-! ## Operations -/

namespace VerbEntry

variable {R : Resolver} {path : String} {shared : List Parameter} {operation : String × Json}

/-- An operation stands for a verb: its key is the verb's token, its value an
object, and its parameters are the shared ones with its own merged in. -/
structure ReadsAs (R : Resolver) (shared : List Parameter) (operation : String × Json)
    (v : VerbEntry) : Prop where
  key : operation.1 = v.verb.token
  object : ∃ fields, operation.2 = .obj fields
  parameters : ∃ own, Parameter.ListReadsAs R operation.2 own ∧
    v.parameters = mergeParameters shared own

/-- What is wrong with an operation that stands for no verb, in the order in
which it is looked for. -/
inductive Refused (R : Resolver) (path : String) (operation : String × Json) : Failure → Prop
  | unsupported : (∀ verb : Verb, operation.1 ≠ verb.token) →
      Refused R path operation (.unsupportedVerb path operation.1)
  | notObject {verb : Verb} : operation.1 = verb.token → (∀ fields, operation.2 ≠ .obj fields) →
      Refused R path operation (.malformedOperation path (.operationNotObject verb))
  | parameters {verb : Verb} {fields : List (String × Json)} {failure : Failure} :
      operation.1 = verb.token → operation.2 = .obj fields →
      Parameter.ListRefused R path operation.2 failure → Refused R path operation failure

/-- Reading in steps, once an operation has its verb and is an object: its
parameters, and what is logged. -/
theorem read_eq {verb : Verb} {fields : List (String × Json)}
    (hkey : operation.1 = verb.token) (hobj : operation.2 = .obj fields) :
    read R path shared operation = (do
      let own ← Traced.silent (Parameter.listUnder R path operation.2)
      let parameters := mergeParameters shared own
      Traced.log (.verbRead path verb parameters.length)
      return { verb, parameters }) := by
  have hverb : Verb.ofToken? operation.1 = some verb := Verb.ofToken?_eq_some_iff.2 hkey
  simp only [read, hverb, hobj, Json.asObj?]
  rfl

/-- An operation under the token of no verb is not read any further. -/
theorem read_of_unsupported (hkey : ∀ verb : Verb, operation.1 ≠ verb.token) :
    read R path shared operation = Traced.fail (.unsupportedVerb path operation.1) := by
  simp only [read, Verb.ofToken?_eq_none_iff.2 hkey]

/-- Nor is one that is no object. -/
theorem read_of_not_obj {verb : Verb} (hkey : operation.1 = verb.token)
    (hobj : ∀ fields, operation.2 ≠ .obj fields) :
    read R path shared operation =
      Traced.fail (.malformedOperation path (.operationNotObject verb)) := by
  simp only [read, Verb.ofToken?_eq_some_iff.2 hkey, Json.asObj?_eq_none_iff.2 hobj]
  rfl

/-- Once an operation has its verb and is an object, its parameters are what
is left to read. -/
theorem outcome_read_eq {verb : Verb} {fields : List (String × Json)}
    (hkey : operation.1 = verb.token) (hobj : operation.2 = .obj fields) :
    (read R path shared operation).outcome =
      (Parameter.listUnder R path operation.2 >>= fun own =>
        .ok { verb, parameters := mergeParameters shared own }) := by
  rw [read_eq hkey hobj]
  simp

/-- What an operation is refused for is the reader's answer. -/
theorem outcome_read_of_refused {failure : Failure} (h : Refused R path operation failure) :
    (read R path shared operation).outcome = .error failure := by
  cases h with
  | unsupported hkey => rw [read_of_unsupported hkey, Traced.outcome_fail]
  | notObject hkey hobj => rw [read_of_not_obj hkey hobj, Traced.outcome_fail]
  | parameters hkey hobj hparameters =>
    rw [outcome_read_eq hkey hobj, Parameter.listUnder_eq_error_iff.2 hparameters]
    rfl

/-- An operation has its verb and is an object unless it is refused. -/
theorem verb_and_object_or_refused (R : Resolver) (path : String) (operation : String × Json) :
    (∃ verb : Verb, ∃ fields, operation.1 = verb.token ∧ operation.2 = .obj fields) ∨
      ∃ failure, Refused R path operation failure := by
  rcases hkey : Verb.ofToken? operation.1 with - | verb
  · exact .inr ⟨_, .unsupported (Verb.ofToken?_eq_none_iff.1 hkey)⟩
  rw [Verb.ofToken?_eq_some_iff] at hkey
  rcases hobj : operation.2.asObj? with - | fields
  · exact .inr ⟨_, .notObject hkey (Json.asObj?_eq_none_iff.1 hobj)⟩
  · exact .inl ⟨verb, fields, hkey, Json.asObj?_eq_some_iff.1 hobj⟩

/-- Reading an operation answers with the verb that it stands for. -/
theorem outcome_read_eq_ok_iff {v : VerbEntry} :
    (read R path shared operation).outcome = .ok v ↔ ReadsAs R shared operation v := by
  constructor
  · intro h
    rcases verb_and_object_or_refused R path operation with ⟨verb, fields, hkey, hobj⟩ | ⟨_, href⟩
    · rw [outcome_read_eq hkey hobj, bind_eq_ok_iff] at h
      obtain ⟨own, hown, hv⟩ := h
      cases hv
      exact ⟨hkey, ⟨fields, hobj⟩, own, Parameter.listUnder_eq_ok_iff.1 hown, rfl⟩
    · rw [outcome_read_of_refused href] at h
      cases h
  · rintro ⟨hkey, ⟨fields, hobj⟩, own, hown, hparameters⟩
    rw [outcome_read_eq hkey hobj, Parameter.listUnder_eq_ok_iff.2 hown, ok_bind, ← hparameters]

/-- Reading an operation fails with what it is refused for. -/
theorem outcome_read_eq_error_iff {failure : Failure} :
    (read R path shared operation).outcome = .error failure ↔ Refused R path operation failure := by
  refine ⟨fun h => ?_, outcome_read_of_refused⟩
  rcases verb_and_object_or_refused R path operation with ⟨verb, fields, hkey, hobj⟩ | ⟨_, href⟩
  · rw [outcome_read_eq hkey hobj, bind_eq_error_iff] at h
    rcases h with h | ⟨own, -, h⟩
    · exact .parameters hkey hobj (Parameter.listUnder_eq_error_iff.1 h)
    · cases h
  · have hsame := (outcome_read_of_refused href).symm.trans h
    cases hsame
    exact href

/-- A traversal of operations fails with what the first one that is refused
is refused for. -/
theorem mapM_outcome_read_eq_error_iff {operations : List (String × Json)} {failure : Failure} :
    operations.mapM (fun operation => (read R path shared operation).outcome) = .error failure ↔
      FirstFails (fun operation => ∃ v, ReadsAs R shared operation v) (Refused R path · failure)
        operations := by
  simp only [mapM_eq_error_iff, outcome_read_eq_ok_iff, outcome_read_eq_error_iff]

end VerbEntry

/-! ## Entries -/

namespace PathEntry

variable {R : Resolver} {path : String} {item : Json}

/-- An item that can be read: it resolves to an object whose own parameters
can be read and in which whatever is no field stands under a verb's token,
over an object whose parameters can be read. -/
def Readable (R : Resolver) (item : Json) : Prop :=
  ∃ fields shared, R.resolve item = .ok (.obj fields) ∧
    Parameter.ListReadsAs R (.obj fields) shared ∧
    ∀ field ∈ fields, isField field.1 = false →
      (∃ verb : Verb, field.1 = verb.token) ∧
        ∃ own, ∃ inner, field.2 = .obj inner ∧ Parameter.ListReadsAs R (.obj inner) own

/-- An item stands for an entry: the path as it is written, and one verb for
each operation, in document order. -/
def ReadsAs (R : Resolver) (path : String) (item : Json) (entry : PathEntry) : Prop :=
  entry.path = path ∧
    ∃ fields shared, R.resolve item = .ok (.obj fields) ∧
      Parameter.ListReadsAs R (.obj fields) shared ∧
      List.Forall₂ (VerbEntry.ReadsAs R shared) (operations fields) entry.verbs

/-- What an item is refused for: it does not resolve, or to no object, or its
own parameters are refused, or an operation is refused after operations that
are not. -/
inductive Refused (R : Resolver) (path : String) (item : Json) : Failure → Prop
  | unresolved {failure : Failure} : R.resolve item = .error failure → Refused R path item failure
  | notObject {value : Json} : R.resolve item = .ok value → (∀ fields, value ≠ .obj fields) →
      Refused R path item (.malformedOperation path .entryNotObject)
  | shared {fields : List (String × Json)} {failure : Failure} :
      R.resolve item = .ok (.obj fields) →
      Parameter.ListRefused R path (.obj fields) failure → Refused R path item failure
  | operation {fields : List (String × Json)} {shared : List Parameter} {failure : Failure} :
      R.resolve item = .ok (.obj fields) → Parameter.ListReadsAs R (.obj fields) shared →
      FirstFails (fun operation => ∃ v, VerbEntry.ReadsAs R shared operation v)
        (VerbEntry.Refused R path · failure) (operations fields) →
      Refused R path item failure

/-- Reading in steps: the shared parameters, the verbs, and what is logged. -/
theorem read_eq {fields : List (String × Json)} (hitem : R.resolve item = .ok (.obj fields)) :
    read R path item = (do
      let shared ← Traced.silent (Parameter.listUnder R path (.obj fields))
      let verbs ← (operations fields).mapM (VerbEntry.read R path shared)
      Traced.log (.pathRead path verbs.length)
      return { path, verbs }) := by
  rw [read, hitem, Traced.silent_ok_bind]
  rfl

/-- An item that resolves to no object is not read any further. -/
theorem read_of_not_obj {value : Json} (hitem : R.resolve item = .ok value)
    (hobj : ∀ fields, value ≠ .obj fields) :
    read R path item = Traced.fail (.malformedOperation path .entryNotObject) := by
  rw [read, hitem, Traced.silent_ok_bind, Json.asObj?_eq_none_iff.2 hobj]

/-- An item that does not resolve fails as its resolution does. -/
theorem read_of_unresolved {failure : Failure} (hitem : R.resolve item = .error failure) :
    read R path item = Traced.fail failure := by
  rw [read, hitem]
  rfl

/-- The outcome in steps. -/
theorem outcome_read_eq {fields : List (String × Json)}
    (hitem : R.resolve item = .ok (.obj fields)) :
    (read R path item).outcome = (do
      let shared ← Parameter.listUnder R path (.obj fields)
      let verbs ← (operations fields).mapM fun operation =>
        (VerbEntry.read R path shared operation).outcome
      .ok { path, verbs }) := by
  rw [read_eq hitem]
  simp [Traced.outcome_mapM]

/-- Reading answers with the entry that the item stands for. -/
theorem outcome_read_eq_ok_iff {entry : PathEntry} :
    (read R path item).outcome = .ok entry ↔ ReadsAs R path item entry := by
  rcases hitem : R.resolve item with failure | value
  · simp [read_of_unresolved hitem, ReadsAs, hitem]
  rcases hobj : value.asObj? with - | fields
  · rw [Json.asObj?_eq_none_iff] at hobj
    simp [read_of_not_obj hitem hobj, ReadsAs, hitem, hobj]
  rw [Json.asObj?_eq_some_iff] at hobj
  subst hobj
  rw [outcome_read_eq hitem]
  simp only [bind_eq_ok_iff, Parameter.listUnder_eq_ok_iff, mapM_eq_ok_iff,
    VerbEntry.outcome_read_eq_ok_iff, ReadsAs]
  constructor
  · rintro ⟨shared, hshared, verbs, hverbs, h⟩
    cases h
    exact ⟨rfl, fields, shared, hitem, hshared, hverbs⟩
  · rintro ⟨hpath, fields', shared, hitem', hshared, hverbs⟩
    rw [hitem] at hitem'
    cases hitem'
    exact ⟨shared, hshared, entry.verbs, hverbs, by rw [← hpath]⟩

/-- What an item is refused for is the reader's answer. -/
theorem outcome_read_of_refused {failure : Failure} (h : Refused R path item failure) :
    (read R path item).outcome = .error failure := by
  cases h with
  | unresolved hitem => rw [read_of_unresolved hitem, Traced.outcome_fail]
  | notObject hitem hobj => rw [read_of_not_obj hitem hobj, Traced.outcome_fail]
  | shared hitem hshared =>
    rw [outcome_read_eq hitem, Parameter.listUnder_eq_error_iff.2 hshared]
    rfl
  | operation hitem hshared hops =>
    rw [outcome_read_eq hitem, Parameter.listUnder_eq_ok_iff.2 hshared, ok_bind,
      VerbEntry.mapM_outcome_read_eq_error_iff.2 hops]
    rfl

/-- Reading fails with what the item is refused for. -/
theorem outcome_read_eq_error_iff {failure : Failure} :
    (read R path item).outcome = .error failure ↔ Refused R path item failure := by
  refine ⟨fun h => ?_, outcome_read_of_refused⟩
  rcases hitem : R.resolve item with failure' | value
  · rw [read_of_unresolved hitem] at h
    cases h
    exact .unresolved hitem
  rcases hobj : value.asObj? with - | fields
  · rw [Json.asObj?_eq_none_iff] at hobj
    rw [read_of_not_obj hitem hobj] at h
    cases h
    exact .notObject hitem hobj
  rw [Json.asObj?_eq_some_iff] at hobj
  subst hobj
  rw [outcome_read_eq hitem] at h
  simp only [bind_eq_error_iff, Parameter.listUnder_eq_error_iff, Parameter.listUnder_eq_ok_iff,
    VerbEntry.mapM_outcome_read_eq_error_iff] at h
  rcases h with h | ⟨shared, hshared, hops | ⟨_, -, h⟩⟩
  · exact .shared hitem h
  · exact .operation hitem hshared hops
  · cases h

/-- An item stands for some entry just if it can be read. -/
theorem exists_readsAs_iff (path : String) :
    (∃ entry, ReadsAs R path item entry) ↔ Readable R item := by
  constructor
  · rintro ⟨entry, -, fields, shared, hitem, hshared, hverbs⟩
    refine ⟨fields, shared, hitem, hshared, fun field hfield hkey => ?_⟩
    have hop : field ∈ operations fields := mem_operations_iff.2 ⟨hfield, hkey⟩
    obtain ⟨v, hv⟩ := exists_forall₂_iff.1 ⟨_, hverbs⟩ field hop
    obtain ⟨inner, hinner⟩ := hv.object
    obtain ⟨own, hown, -⟩ := hv.parameters
    exact ⟨⟨v.verb, hv.key⟩, own, inner, hinner, hinner ▸ hown⟩
  · rintro ⟨fields, shared, hitem, hshared, hfields⟩
    have hops : ∀ operation ∈ operations fields, ∃ v, VerbEntry.ReadsAs R shared operation v := by
      intro operation hop
      obtain ⟨hfield, hno⟩ := mem_operations_iff.1 hop
      obtain ⟨⟨verb, hkey⟩, own, inner, hinner, hown⟩ := hfields operation hfield hno
      exact ⟨⟨verb, mergeParameters shared own⟩, hkey, ⟨inner, hinner⟩, own, hinner ▸ hown, rfl⟩
    obtain ⟨verbs, hverbs⟩ := exists_forall₂_iff.2 hops
    exact ⟨⟨path, verbs⟩, rfl, fields, shared, hitem, hshared, hverbs⟩

/-- **Reading an item is exact.** It succeeds just if the item can be read,
answers then with the entry that the item stands for, and fails otherwise
with what the item is refused for. -/
theorem read_exact (R : Resolver) (path : String) (item : Json) :
    ((∃ entry, (read R path item).outcome = .ok entry) ↔ Readable R item) ∧
      (∀ entry, (read R path item).outcome = .ok entry ↔ ReadsAs R path item entry) ∧
      ∀ failure, (read R path item).outcome = .error failure ↔ Refused R path item failure := by
  refine ⟨?_, fun entry => outcome_read_eq_ok_iff, fun failure => outcome_read_eq_error_iff⟩
  rw [← exists_readsAs_iff path]
  simp only [outcome_read_eq_ok_iff]

end PathEntry

end RestModel
