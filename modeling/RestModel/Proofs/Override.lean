import RestModel.Proofs.Entry

/-!
# Overriding — what merging does to repeated parameters

A parameter of an operation replaces the first one of its key and leaves any
other of that key where it is. So merging repeats no key that was not
repeated before, and none that was stops being repeated: the parameters of a
verb are distinct just if those of its path are
(`PathEntry.distinct_parameters_iff`). A path that declares a parameter twice
keeps the second declaration whatever an operation says
(`PathEntry.stale_declaration`).
-/

namespace RestModel

/-! ## Keys under merging -/

/-- Overriding adds the new key at the end unless it is there already. -/
theorem keys_overrideParameter (ps : List Parameter) (new : Parameter) :
    (overrideParameter ps new).map Parameter.key =
      if new.key ∈ ps.map Parameter.key then ps.map Parameter.key
      else ps.map Parameter.key ++ [new.key] := by
  induction ps with
  | nil => rfl
  | cons p ps ih =>
    rw [overrideParameter, List.map_cons]
    by_cases h : p.key = new.key
    · rw [if_pos h, if_pos (by simp [h]), List.map_cons, h]
    · have hmem : new.key ∈ p.key :: ps.map Parameter.key ↔ new.key ∈ ps.map Parameter.key := by
        rw [List.mem_cons, or_iff_right fun heq => h heq.symm]
      rw [if_neg h, List.map_cons, ih]
      simp only [hmem]
      split <;> rfl

/-- Overriding one parameter repeats just the keys that are repeated. -/
theorem one_lt_count_overrideParameter {ps : List Parameter} {new : Parameter}
    {key : String × Location} :
    1 < ((overrideParameter ps new).map Parameter.key).count key ↔
      1 < (ps.map Parameter.key).count key := by
  rw [keys_overrideParameter]
  split
  · rfl
  · next hnew =>
    -- a key that is added was not there, so it is there once
    rw [List.count_append, List.count_singleton]
    by_cases hkey : new.key = key
    · have hzero : (ps.map Parameter.key).count key = 0 :=
        List.count_eq_zero.2 (hkey ▸ hnew)
      simp [hzero, hkey]
    · simp [hkey]

/-- **Merging repeats just the keys that the shared parameters repeat.** -/
theorem one_lt_count_mergeParameters {shared own : List Parameter} {key : String × Location} :
    1 < ((mergeParameters shared own).map Parameter.key).count key ↔
      1 < (shared.map Parameter.key).count key := by
  induction own generalizing shared with
  | nil => rfl
  | cons new own ih =>
    have hstep : mergeParameters shared (new :: own) =
        mergeParameters (overrideParameter shared new) own := rfl
    rw [hstep, ih, one_lt_count_overrideParameter]

/-- A list is free of repetitions just if no member is counted twice. -/
theorem nodup_iff_not_one_lt_count {α : Type} [BEq α] [LawfulBEq α] {items : List α} :
    items.Nodup ↔ ∀ x, ¬ 1 < items.count x := by
  rw [List.nodup_iff_count]
  exact forall_congr' fun x => Nat.not_lt.symm

/-- **Merged parameters are distinct just if the shared ones are.** -/
theorem nodup_mergeParameters_iff {shared own : List Parameter} :
    ((mergeParameters shared own).map Parameter.key).Nodup ↔
      (shared.map Parameter.key).Nodup := by
  simp only [nodup_iff_not_one_lt_count, one_lt_count_mergeParameters]

/-! ## Verbs of an entry -/

namespace PathEntry

/-- **When the parameters of verbs are distinct.** In an entry that is read,
the parameters of a verb differ in name or location just if the path's own
do, whatever the operations declare, and the keys that a verb repeats are
those that the path repeats. -/
theorem distinct_parameters_iff {R : Resolver} {path : String} {item : Json} {entry : PathEntry}
    (h : (read R path item).outcome = .ok entry) :
    ∃ fields shared, R.resolve item = .ok (.obj fields) ∧
      Parameter.ListReadsAs R (.obj fields) shared ∧
      ∀ v ∈ entry.verbs,
        ((v.parameters.map Parameter.key).Nodup ↔ (shared.map Parameter.key).Nodup) ∧
        ∀ key, 1 < (v.parameters.map Parameter.key).count key ↔
          1 < (shared.map Parameter.key).count key := by
  obtain ⟨-, fields, shared, hitem, hshared, hverbs⟩ := outcome_read_eq_ok_iff.1 h
  refine ⟨fields, shared, hitem, hshared, fun v hv => ?_⟩
  obtain ⟨operation, hop⟩ := exists_forall₂_iff.1 ⟨_, hverbs.flip⟩ v hv
  obtain ⟨own, -, hparameters⟩ := hop.parameters
  rw [hparameters]
  exact ⟨nodup_mergeParameters_iff, fun key => one_lt_count_mergeParameters⟩

/-- A path with a parameter that its operation declares over. -/
def sampleOverride : Json :=
  .obj [("parameters",
      .arr [.obj [("name", .str "a"), ("in", .str "query"), ("type", .str "string")]]),
    ("get", .obj [("parameters",
      .arr [.obj [("name", .str "a"), ("in", .str "query"), ("type", .str "boolean")]])])]

/-- The path declares each parameter once, and so does its verb. -/
theorem distinct_parameters_sample :
    (read (Resolver.ofTable []) "/x" sampleOverride).outcome =
        .ok ⟨"/x", [⟨.get, [⟨"a", .query, false, .boolean⟩]⟩]⟩ ∧
      ∃ fields shared, (Resolver.ofTable []).resolve sampleOverride = .ok (.obj fields) ∧
        Parameter.ListReadsAs (Resolver.ofTable []) (.obj fields) shared ∧
        (shared.map Parameter.key).Nodup := by
  have h : (read (Resolver.ofTable []) "/x" sampleOverride).outcome =
      .ok ⟨"/x", [⟨.get, [⟨"a", .query, false, .boolean⟩]⟩]⟩ := rfl
  obtain ⟨fields, shared, hitem, hshared, hverbs⟩ := distinct_parameters_iff h
  have hverb := (hverbs _ (List.mem_singleton.2 rfl)).1
  exact ⟨h, fields, shared, hitem, hshared, hverb.1 (by decide)⟩

/-- A path that declares a parameter twice, and an operation that declares it over. -/
def sampleRepeated : Json :=
  .obj [("parameters", .arr [
      .obj [("name", .str "a"), ("in", .str "query"), ("type", .str "string")],
      .obj [("name", .str "a"), ("in", .str "query"), ("type", .str "integer")]]),
    ("get", .obj [("parameters",
      .arr [.obj [("name", .str "a"), ("in", .str "query"), ("type", .str "boolean")]])])]

/-- **A second declaration of the path survives.** The operation replaces the
first only, so its parameters are not distinct. -/
theorem stale_declaration :
    ¬ ∀ (R : Resolver) (path : String) (item : Json) (entry : PathEntry),
      (read R path item).outcome = .ok entry →
        ∀ v ∈ entry.verbs, (v.parameters.map Parameter.key).Nodup := by
  intro hall
  have h : (read (Resolver.ofTable []) "/x" sampleRepeated).outcome =
      .ok ⟨"/x", [⟨.get, [⟨"a", .query, false, .boolean⟩, ⟨"a", .query, false, .number⟩]⟩]⟩ := rfl
  have hnodup := hall _ _ _ _ h _ (List.mem_singleton.2 rfl)
  exact absurd hnodup (by decide)

end PathEntry

end RestModel
