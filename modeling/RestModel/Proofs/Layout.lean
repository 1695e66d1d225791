import RestModel.Proofs.Entry
import RestModel.Proofs.Fields
import RestModel.Proofs.Reference

/-!
# Layout — what the arrangement of an item's object can change

A path's own parameters are found by their key and its verbs by their place.
So an object is read through two views of it, what stands under `parameters`
and its operations in order: objects with the same views are read alike,
failures and logged events included. The order of the operations is the
order of the verbs, and no verb depends on any other (`PathEntry.read_layout`).
-/

namespace RestModel

variable {R : Resolver} {path : String}

/-- Lists of parameters are found by their key. -/
theorem Parameter.listUnder_congr {object object' : Json}
    (h : object.get? "parameters" = object'.get? "parameters") :
    listUnder R path object = listUnder R path object' := by
  rw [listUnder, listUnder, h]

namespace PathEntry

variable {A B fields : List (String × Json)} {shared : List Parameter}

/-- **An object is read through its two views.** -/
theorem read_congr (hA : (Json.obj A).reference? = none) (hB : (Json.obj B).reference? = none)
    (hparameters : A.lookup "parameters" = B.lookup "parameters")
    (hoperations : operations A = operations B) :
    read R path (.obj A) = read R path (.obj B) := by
  have hshared : Parameter.listUnder R path (.obj A) = Parameter.listUnder R path (.obj B) :=
    Parameter.listUnder_congr hparameters
  rw [read_eq (Resolver.resolve_of_concrete hA), read_eq (Resolver.resolve_of_concrete hB),
    hshared, hoperations]

/-- An object that is no reference is read just if its own parameters are and
each of its operations is. -/
theorem outcome_read_obj_eq_ok_iff (hconcrete : (Json.obj fields).reference? = none)
    {entry : PathEntry} :
    (read R path (.obj fields)).outcome = .ok entry ↔
      entry.path = path ∧ ∃ shared, Parameter.listUnder R path (.obj fields) = .ok shared ∧
        List.Forall₂ (fun operation v => (VerbEntry.read R path shared operation).outcome = .ok v)
          (operations fields) entry.verbs := by
  rw [outcome_read_eq (Resolver.resolve_of_concrete hconcrete)]
  simp only [bind_eq_ok_iff, mapM_eq_ok_iff]
  constructor
  · rintro ⟨shared, hshared, verbs, hverbs, h⟩
    cases h
    exact ⟨rfl, shared, hshared, hverbs⟩
  · rintro ⟨rfl, shared, hshared, hverbs⟩
    exact ⟨shared, hshared, entry.verbs, hverbs, rfl⟩

theorem exists_outcome_read_obj_iff (hconcrete : (Json.obj fields).reference? = none) :
    (∃ entry, (read R path (.obj fields)).outcome = .ok entry) ↔
      ∃ shared, Parameter.listUnder R path (.obj fields) = .ok shared ∧
        ∀ operation ∈ operations fields,
          ∃ v, (VerbEntry.read R path shared operation).outcome = .ok v := by
  simp only [outcome_read_obj_eq_ok_iff hconcrete, ← exists_forall₂_iff]
  constructor
  · rintro ⟨entry, -, shared, hshared, hverbs⟩
    exact ⟨shared, hshared, entry.verbs, hverbs⟩
  · rintro ⟨shared, hshared, verbs, hverbs⟩
    exact ⟨⟨path, verbs⟩, rfl, shared, hshared, hverbs⟩

/-- The verb that stands under a key of an object. Where there is none it is
any verb at all. -/
def verbUnder (R : Resolver) (path : String) (shared : List Parameter)
    (fields : List (String × Json)) (key : String) : VerbEntry :=
  match (VerbEntry.read R path shared (key, (fields.lookup key).getD .null)).outcome with
  | .ok v => v
  | .error _ => default

theorem verbUnder_eq (hkeys : (fields.map Prod.fst).Nodup) {operation : String × Json}
    (hop : operation ∈ fields) {v : VerbEntry}
    (h : (VerbEntry.read R path shared operation).outcome = .ok v) :
    verbUnder R path shared fields operation.1 = v := by
  have hlookup : fields.lookup operation.1 = some operation.2 :=
    (lookup_eq_some_iff_mem hkeys).2 hop
  rw [verbUnder, hlookup]
  simp only [Option.getD_some, h]

/-- Where keys are distinct, verbs read from operations of an object are those
under the operations' keys, in their order. -/
theorem verbs_eq_map_verbUnder (hkeys : (fields.map Prod.fst).Nodup)
    {operations : List (String × Json)} (hsub : operations ⊆ fields) {verbs : List VerbEntry}
    (h : List.Forall₂ (fun operation v => (VerbEntry.read R path shared operation).outcome = .ok v)
      operations verbs) :
    verbs = operations.map fun operation => verbUnder R path shared fields operation.1 := by
  induction h with
  | nil => rfl
  | cons hv _ ih =>
    rw [List.cons_subset] at hsub
    rw [List.map_cons, ← ih hsub.2, verbUnder_eq hkeys hsub.1 hv]

/-- **What an item's layout can change, and what not.** Take two objects that
are no references. If they agree on `parameters` and on their operations in
order, they are read alike. If one is the other in another order, either is
read just if the other is, and their verbs are the same under each key and
stand in the order of the keys. -/
theorem read_layout (R : Resolver) (path : String) (hA : (Json.obj A).reference? = none)
    (hB : (Json.obj B).reference? = none) :
    (A.lookup "parameters" = B.lookup "parameters" → operations A = operations B →
      read R path (.obj A) = read R path (.obj B)) ∧
    ((A.map Prod.fst).Nodup → A.Perm B →
      ((∃ a, (read R path (.obj A)).outcome = .ok a) ↔
        ∃ b, (read R path (.obj B)).outcome = .ok b) ∧
      ∀ a b, (read R path (.obj A)).outcome = .ok a → (read R path (.obj B)).outcome = .ok b →
        a.path = b.path ∧ ∃ verbOf : String → VerbEntry,
          (∀ operation ∈ operations A, (verbOf operation.1).verb.token = operation.1) ∧
          a.verbs = (operations A).map (fun operation => verbOf operation.1) ∧
          b.verbs = (operations B).map (fun operation => verbOf operation.1)) := by
  refine ⟨read_congr hA hB, fun hkeys hperm => ?_⟩
  have hshared : Parameter.listUnder R path (.obj A) = Parameter.listUnder R path (.obj B) :=
    Parameter.listUnder_congr (lookup_eq_of_perm hkeys hperm)
  have hops : (operations A).Perm (operations B) := hperm.filter _
  constructor
  · rw [exists_outcome_read_obj_iff hA, exists_outcome_read_obj_iff hB, hshared]
    simp only [hops.mem_iff]
  · intro a b ha hb
    obtain ⟨hpathA, shared, hsharedA, hverbsA⟩ := (outcome_read_obj_eq_ok_iff hA).1 ha
    obtain ⟨hpathB, shared', hsharedB, hverbsB⟩ := (outcome_read_obj_eq_ok_iff hB).1 hb
    -- one list of shared parameters, so that one function reads both objects
    obtain rfl : shared = shared' :=
      Except.ok.inj (hsharedA.symm.trans (hshared.trans hsharedB))
    have hsubA : operations A ⊆ A := List.filter_sublist.subset
    have hsubB : operations B ⊆ A := fun operation hop => hsubA (hops.mem_iff.2 hop)
    refine ⟨hpathA.trans hpathB.symm, verbUnder R path shared A, fun operation hop => ?_,
      verbs_eq_map_verbUnder hkeys hsubA hverbsA, verbs_eq_map_verbUnder hkeys hsubB hverbsB⟩
    obtain ⟨v, hv⟩ := exists_forall₂_iff.1 ⟨_, hverbsA⟩ operation hop
    rw [verbUnder_eq hkeys (hsubA hop) hv]
    exact (VerbEntry.outcome_read_eq_ok_iff.1 hv).key.symm

/-- An object with two verbs and a field. -/
def sampleLayout : List (String × Json) := [("put", .obj []), ("get", .obj []), ("x-note", .null)]

/-- The same with other fields. -/
def sampleAnnotated : List (String × Json) :=
  [("summary", .str "s"), ("put", .obj []), ("servers", .null), ("get", .obj [])]

/-- The same with the second verb in front. -/
def sampleReordered : List (String × Json) :=
  [("get", .obj []), ("put", .obj []), ("x-note", .null)]

/-- Other fields are no matter, and another order is the order of the verbs. -/
theorem read_layout_sample :
    ((Json.obj sampleLayout).reference? = none ∧ (Json.obj sampleAnnotated).reference? = none ∧
      read (Resolver.ofTable []) "/x" (.obj sampleLayout) =
        read (Resolver.ofTable []) "/x" (.obj sampleAnnotated)) ∧
    (Json.obj sampleReordered).reference? = none ∧ sampleLayout.Perm sampleReordered ∧
      ∃ verbOf : String → VerbEntry,
        [⟨.put, []⟩, ⟨.get, []⟩] = (operations sampleLayout).map (fun op => verbOf op.1) ∧
        [⟨.get, []⟩, ⟨.put, []⟩] = (operations sampleReordered).map (fun op => verbOf op.1) := by
  have hlayout : (Json.obj sampleLayout).reference? = none := rfl
  have hannotated : (Json.obj sampleAnnotated).reference? = none := rfl
  have hreordered : (Json.obj sampleReordered).reference? = none := rfl
  have hperm : sampleLayout.Perm sampleReordered := .swap _ _ _
  have hsame := (read_layout (Resolver.ofTable []) "/x" hlayout hannotated).1 rfl rfl
  have hverbs := ((read_layout (Resolver.ofTable []) "/x" hlayout hreordered).2 (by decide) hperm).2
  obtain ⟨-, verbOf, -, hA, hB⟩ := hverbs ⟨"/x", [⟨.put, []⟩, ⟨.get, []⟩]⟩
    ⟨"/x", [⟨.get, []⟩, ⟨.put, []⟩]⟩ rfl rfl
  exact ⟨⟨hlayout, hannotated, hsame⟩, hreordered, hperm, verbOf, hA, hB⟩

end PathEntry

end RestModel
