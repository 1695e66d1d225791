/-!
# Fields — lists of values under keys

Objects of documents and tables of settings are lists of fields in the order
in which their keys first appeared. Setting a key again replaces its value
where it stands, so fields that are set one after another repeat no key
(`nodup_setField`).
-/

namespace RestModel

/-- Sets the value of a key: in place if the key is there, else at the end. -/
def setField {α : Type} (fields : List (String × α)) (key : String) (value : α) :
    List (String × α) :=
  match fields with
  | [] => [(key, value)]
  | (k, v) :: rest => if k = key then (key, value) :: rest else (k, v) :: setField rest key value

/-- The fields that result from setting the given ones in turn. -/
def fieldsOf {α : Type} (pairs : List (String × α)) : List (String × α) :=
  pairs.foldl (fun fields pair => setField fields pair.1 pair.2) []

/-- Setting a key adds it at the end unless it is there already. -/
theorem keys_setField {α : Type} (fields : List (String × α)) (key : String) (value : α) :
    (setField fields key value).map Prod.fst =
      if key ∈ fields.map Prod.fst then fields.map Prod.fst else fields.map Prod.fst ++ [key] := by
  induction fields with
  | nil => simp [setField]
  | cons field rest ih =>
    obtain ⟨k, v⟩ := field
    by_cases h : k = key
    · simp [setField, h]
    · simp only [setField, h, if_false, List.map_cons, ih, List.mem_cons, Ne.symm h, false_or]
      split <;> simp_all

/-- Setting a key repeats none. -/
theorem nodup_setField {α : Type} {fields : List (String × α)} (key : String) (value : α)
    (h : (fields.map Prod.fst).Nodup) : ((setField fields key value).map Prod.fst).Nodup := by
  rw [keys_setField]
  split
  · exact h
  · next hk =>
    refine List.nodup_append.2 ⟨h, by simp, ?_⟩
    intro a ha b hb
    rw [List.mem_singleton] at hb
    rintro rfl
    exact hk (hb ▸ ha)

end RestModel
