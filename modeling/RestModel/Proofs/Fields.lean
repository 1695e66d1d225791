import Mathlib.Data.List.Nodup
import RestModel.Json.Value

/-!
# Fields — looking keys up, and rewriting what stands under them

A look-up finds the first field of a key, and any field of a key if the keys
are distinct, so the order of distinct keys is no matter to look-ups
(`lookup_eq_of_perm`). Rewriting the value of every field by a rule for its
key keeps the keys and their order, and a look-up in the rewritten object is
the rewritten look-up (`Json.get?_mapFields`).
-/

namespace RestModel

/-! ## Look-ups and order -/

section Lookup

variable {α : Type} {fields fields' : List (String × α)} {key : String} {value : α}

/-- What is looked up stands in one of the fields. -/
theorem mem_of_lookup_eq_some (h : fields.lookup key = some value) : (key, value) ∈ fields := by
  obtain ⟨before, after, rfl, -⟩ := List.lookup_eq_some_iff.1 h
  simp

/-- Where keys are distinct, looking up is being a field. -/
theorem lookup_eq_some_iff_mem (hkeys : (fields.map Prod.fst).Nodup) :
    fields.lookup key = some value ↔ (key, value) ∈ fields := by
  refine ⟨mem_of_lookup_eq_some, fun h => ?_⟩
  induction fields with
  | nil => cases h
  | cons field fields ih =>
    rw [List.map_cons, List.nodup_cons] at hkeys
    rw [List.lookup_cons]
    rcases List.mem_cons.1 h with rfl | h
    · simp
    · have hne : (key == field.1) = false := by
        rw [beq_eq_false_iff_ne]
        rintro rfl
        exact hkeys.1 (List.mem_map.2 ⟨_, h, rfl⟩)
      rw [hne]
      exact ih hkeys.2 h

/-- Where keys are distinct, their order is no matter to look-ups. -/
theorem lookup_eq_of_perm (hkeys : (fields.map Prod.fst).Nodup) (h : fields.Perm fields') :
    fields.lookup key = fields'.lookup key := by
  have hkeys' : (fields'.map Prod.fst).Nodup := (h.map Prod.fst).nodup_iff.1 hkeys
  refine Option.ext fun value => ?_
  rw [lookup_eq_some_iff_mem hkeys, lookup_eq_some_iff_mem hkeys', h.mem_iff]

/-- Rewriting values by their keys commutes with looking them up. -/
theorem lookup_map_values (f : String → α → α) :
    (fields.map fun field => (field.1, f field.1 field.2)).lookup key =
      (fields.lookup key).map (f key) := by
  induction fields with
  | nil => rfl
  | cons field fields ih =>
    rw [List.map_cons, List.lookup_cons, List.lookup_cons]
    rcases hkey : key == field.1 with - | -
    · exact ih
    · rw [beq_iff_eq.1 hkey]
      rfl

/-- A look-up ends at the first field of its key. -/
theorem lookup_cons_eq (field : String × α) (fields : List (String × α)) :
    (field :: fields).lookup key = if key = field.1 then some field.2 else fields.lookup key := by
  rw [List.lookup_cons]
  by_cases h : key = field.1
  · rw [if_pos h, beq_iff_eq.2 h]
  · rw [if_neg h, beq_eq_false_iff_ne.2 h]

/-- Leaving out other keys is no matter to a look-up, and what is left out is not found. -/
theorem lookup_filter_keys (keep : String → Bool) :
    (fields.filter fun field => keep field.1).lookup key =
      if keep key then fields.lookup key else none := by
  induction fields with
  | nil => simp
  | cons field fields ih =>
    by_cases h : key = field.1
    · subst h
      by_cases hkeep : keep field.1 = true
      · rw [List.filter_cons, if_pos hkeep, if_pos hkeep, lookup_cons_eq, lookup_cons_eq,
          if_pos rfl, if_pos rfl]
      · rw [List.filter_cons, if_neg hkeep, ih, if_neg hkeep, if_neg hkeep]
    · have hrest : (field :: fields).lookup key = fields.lookup key := by
        rw [lookup_cons_eq, if_neg h]
      rw [hrest, ← ih, List.filter_cons]
      split
      · rw [lookup_cons_eq, if_neg h]
      · rfl

end Lookup

/-! ## Setting a key -/

/-- A field after setting a key was there before or is new. -/
theorem mem_setField {α : Type} {fields : List (String × α)} {key : String} {value : α}
    {field : String × α} (h : field ∈ setField fields key value) :
    field ∈ fields ∨ field = (key, value) := by
  induction fields with
  | nil => exact .inr (List.mem_singleton.1 h)
  | cons first fields ih =>
    rw [setField] at h
    split at h
    · rcases List.mem_cons.1 h with rfl | h
      · exact .inr rfl
      · exact .inl (List.mem_cons_of_mem _ h)
    · rcases List.mem_cons.1 h with rfl | h
      · exact .inl List.mem_cons_self
      · exact (ih h).imp_left (List.mem_cons_of_mem _)

/-- What holds of all values before holds of all after, if it holds of the new one. -/
theorem forall_mem_setField {α : Type} {holds : α → Prop} {fields : List (String × α)}
    {key : String} {value : α} (h : ∀ field ∈ fields, holds field.2) (hvalue : holds value) :
    ∀ field ∈ setField fields key value, holds field.2 := by
  intro field hfield
  rcases mem_setField hfield with hfield | rfl
  · exact h field hfield
  · exact hvalue

/-- A key that was set has its new value, any other key the value that it had. -/
theorem lookup_setField {α : Type} {fields : List (String × α)} {key key' : String} {value : α} :
    (setField fields key value).lookup key' =
      if key' = key then some value else fields.lookup key' := by
  induction fields with
  | nil => rw [setField, lookup_cons_eq]
  | cons field fields ih =>
    obtain ⟨k, v⟩ := field
    rw [setField]
    by_cases hk : k = key
    · subst hk
      rw [if_pos rfl, lookup_cons_eq, lookup_cons_eq]
      by_cases h : key' = k <;> simp only [h, if_true, if_false]
    · rw [if_neg hk, lookup_cons_eq, lookup_cons_eq, ih]
      by_cases h : key' = k
      · subst h
        rw [if_pos rfl, if_neg hk, if_pos rfl]
      · rw [if_neg h, if_neg h]

/-! ## Rewriting an object -/

namespace Json

/-- The value is an object that has the given value under the key. -/
def HasField (object : Json) (key : String) (value : Json) : Prop :=
  ∃ fields, object = .obj fields ∧ (key, value) ∈ fields

/-- Rewrites what stands under each key of an object. -/
def mapFields (f : String → Json → Json) : Json → Json
  | .obj fields => .obj (fields.map fun field => (field.1, f field.1 field.2))
  | value => value

/-- Rewrites what stands under one key of an object. -/
def mapUnder (key : String) (f : Json → Json) : Json → Json :=
  mapFields fun k value => if k = key then f value else value

/-- Rewrites the items of an array. -/
def mapItems (f : Json → Json) : Json → Json
  | .arr items => .arr (items.map f)
  | value => value

variable {f g : String → Json → Json} {h : Json → Json} {key key' : String} {value field : Json}

/-- What is looked up in an object is one of its fields. -/
theorem hasField_of_get? (hget : value.get? key = some field) : value.HasField key field := by
  cases value with
  | obj fields => exact ⟨fields, rfl, mem_of_lookup_eq_some hget⟩
  | _ => cases hget

/-- A look-up in a rewritten object is the rewritten look-up. -/
theorem get?_mapFields : (value.mapFields f).get? key = (value.get? key).map (f key) := by
  cases value with
  | obj fields => exact lookup_map_values f
  | _ => rfl

/-- Rewriting makes no object and unmakes none. -/
theorem asObj?_mapFields :
    (value.mapFields f).asObj? =
      value.asObj?.map (·.map fun field => (field.1, f field.1 field.2)) := by
  cases value <;> rfl

/-- Only the rules for fields that are there count. -/
theorem mapFields_congr (hfg : ∀ key field, value.HasField key field → f key field = g key field) :
    value.mapFields f = value.mapFields g := by
  cases value with
  | obj fields =>
    simp only [mapFields, obj.injEq]
    refine List.map_congr_left fun field hfield => ?_
    rw [hfg field.1 field.2 ⟨fields, rfl, hfield⟩]
  | _ => rfl

theorem mapUnder_congr {h h' : Json → Json}
    (hh : ∀ field, value.HasField key field → h field = h' field) :
    value.mapUnder key h = value.mapUnder key h' := by
  refine mapFields_congr fun k field hfield => ?_
  by_cases hk : k = key
  · rw [if_pos hk, if_pos hk, hh field (hk ▸ hfield)]
  · rw [if_neg hk, if_neg hk]

theorem get?_mapUnder_self : (value.mapUnder key h).get? key = (value.get? key).map h := by
  rw [mapUnder, get?_mapFields]
  simp

theorem get?_mapUnder_of_ne (hne : key' ≠ key) :
    (value.mapUnder key h).get? key' = value.get? key' := by
  rw [mapUnder, get?_mapFields]
  simp [hne]

/-- Texts under other keys stay what they are. -/
theorem getStr?_mapUnder_of_ne (hne : key' ≠ key) :
    (value.mapUnder key h).getStr? key' = value.getStr? key' := by
  rw [getStr?, get?_mapUnder_of_ne hne, getStr?]

theorem asObj?_isNone_mapUnder :
    (value.mapUnder key h).asObj?.isNone = value.asObj?.isNone := by
  rw [mapUnder, asObj?_mapFields, Option.isNone_map]

/-- Where the key is absent nothing is rewritten. -/
theorem mapUnder_of_absent (habsent : value.get? key = none) : value.mapUnder key h = value := by
  cases value with
  | obj fields =>
    have hne : ∀ field ∈ fields, field.1 ≠ key := by
      intro field hfield heq
      exact absurd (List.lookup_eq_none_iff.1 habsent field hfield) (by simp [heq])
    simp only [mapUnder, mapFields, obj.injEq]
    refine (List.map_congr_left fun field hfield => ?_).trans (List.map_id fields)
    rw [if_neg (hne field hfield)]
    rfl
  | _ => rfl

theorem mapItems_congr {h h' : Json → Json}
    (hh : ∀ items, value = .arr items → ∀ item ∈ items, h item = h' item) :
    value.mapItems h = value.mapItems h' := by
  cases value with
  | arr items => exact congrArg arr (List.map_congr_left (hh items rfl))
  | _ => rfl

theorem asArr?_mapItems : (value.mapItems h).asArr? = value.asArr?.map (·.map h) := by
  cases value <;> rfl

end Json

end RestModel
