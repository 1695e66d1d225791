import Mathlib.Data.List.Induction
import Mathlib.Data.List.Nodup
import RestModel.Proofs.Override

/-!
# Merging — which parameter stands where

Merging goes through the operation's own parameters one by one. Each changes
a single place: the first that has its key, or the place behind the last if
none has (`getElem?_overrideParameter`). So the keys of the path stay where
they are, and new keys come behind them in order of appearance
(`keys_mergeParameters`). At the first place of a key stands the last of the
operation's own parameters with that key, if there is one. At every other
place stands what the path has there (`mergeParameters_exact`).
-/

namespace RestModel

variable {ps shared own : List Parameter} {new : Parameter} {key : String × Location} {i : Nat}

/-- The keys that an operation brings in: those of its own parameters that the
path has not, each once, in order of appearance. -/
def newKeys (shared own : List Parameter) : List (String × Location) :=
  ((own.map Parameter.key).filter fun key => key ∉ shared.map Parameter.key).eraseDups

/-- The last of an operation's own parameters that has the key. -/
def lastOf (own : List Parameter) (key : String × Location) : Option Parameter :=
  (own.filter fun p => p.key = key).getLast?

/-! ## One parameter more -/

/-- A parameter more is merged into what the others have made. -/
theorem mergeParameters_concat (shared own : List Parameter) (new : Parameter) :
    mergeParameters shared (own ++ [new]) = overrideParameter (mergeParameters shared own) new := by
  rw [mergeParameters, List.foldl_append]
  rfl

theorem lastOf_concat (own : List Parameter) (new : Parameter) (key : String × Location) :
    lastOf (own ++ [new]) key = if new.key = key then some new else lastOf own key := by
  rw [lastOf, List.filter_append, List.filter_singleton]
  by_cases h : new.key = key
  · simp [h]
  · simp [h, lastOf]

theorem mem_newKeys_iff :
    key ∈ newKeys shared own ↔ key ∈ own.map Parameter.key ∧ key ∉ shared.map Parameter.key := by
  rw [newKeys, List.mem_eraseDups, List.mem_filter, decide_eq_true_eq]

/-- A parameter more brings in its key, unless the path or a parameter before it has it. -/
theorem newKeys_concat (shared own : List Parameter) (new : Parameter) :
    newKeys shared (own ++ [new]) =
      if new.key ∈ shared.map Parameter.key ++ newKeys shared own then newKeys shared own
      else newKeys shared own ++ [new.key] := by
  have hseen : new.key ∈ shared.map Parameter.key ++ newKeys shared own ↔
      new.key ∈ shared.map Parameter.key ∨ new.key ∈ own.map Parameter.key := by
    rw [List.mem_append, mem_newKeys_iff]
    tauto
  simp only [hseen]
  rw [newKeys, newKeys, List.map_append, List.map_singleton, List.filter_append,
    List.filter_singleton, List.eraseDups_append]
  generalize shared.map Parameter.key = keys
  generalize own.map Parameter.key = ownKeys
  by_cases hkeys : new.key ∈ keys
  · simp [hkeys]
  · by_cases hown : new.key ∈ ownKeys
    · simp [hkeys, hown, List.removeAll]
    · simp [hkeys, hown, List.removeAll, List.eraseDups_cons]

/-- **Keys stand in order of appearance**, first the path's and then the new ones. -/
theorem keys_mergeParameters (shared own : List Parameter) :
    (mergeParameters shared own).map Parameter.key =
      shared.map Parameter.key ++ newKeys shared own := by
  induction own using List.reverseRecOn with
  | nil => simp [mergeParameters, newKeys]
  | append_singleton own new ih =>
    rw [mergeParameters_concat, keys_overrideParameter, ih, newKeys_concat]
    split
    · rfl
    · rw [List.append_assoc]

/-- No new key is brought in twice. -/
theorem nodup_newKeys (shared own : List Parameter) : (newKeys shared own).Nodup := by
  induction own using List.reverseRecOn with
  | nil => simp [newKeys]
  | append_singleton own new ih =>
    rw [newKeys_concat]
    split
    · exact ih
    · next hnew =>
      rw [List.mem_append, not_or] at hnew
      rw [← List.concat_eq_append]
      exact List.Nodup.concat hnew.2 ih

/-! ## Places -/

/-- **Overriding changes one place**: the first of the key, or the one behind
the last if no parameter has the key. -/
theorem getElem?_overrideParameter (ps : List Parameter) (new : Parameter) (i : Nat) :
    (overrideParameter ps new)[i]? =
      if (ps.map Parameter.key).idxOf new.key = i then some new else ps[i]? := by
  induction ps generalizing i with
  | nil => cases i <;> rfl
  | cons p ps ih =>
    rw [overrideParameter, List.map_cons]
    by_cases h : p.key = new.key
    · rw [if_pos h, List.idxOf_cons_eq _ h]
      cases i <;> rfl
    · rw [if_neg h, List.idxOf_cons_ne _ h]
      cases i with
      | zero => rfl
      | succ i => simp [ih i]

/-- The keys change in the same place, and only if it is a new one. -/
theorem getElem?_keys_overrideParameter (ps : List Parameter) (new : Parameter) (i : Nat) :
    ((overrideParameter ps new).map Parameter.key)[i]? =
      if (ps.map Parameter.key).idxOf new.key = i then some new.key
      else (ps.map Parameter.key)[i]? := by
  rw [List.getElem?_map, getElem?_overrideParameter, List.getElem?_map]
  split <;> rfl

/-- The first place of a key stays the first, and that of a new key is where it is put. -/
theorem idxOf_keys_overrideParameter (h : key ∈ ps.map Parameter.key ∨ key = new.key) :
    ((overrideParameter ps new).map Parameter.key).idxOf key =
      (ps.map Parameter.key).idxOf key := by
  rw [keys_overrideParameter]
  split
  · rfl
  · next hnew =>
    rcases h with hold | rfl
    · exact List.idxOf_append_of_mem hold
    · rw [List.idxOf_append_of_notMem hnew, List.idxOf_eq_length hnew]
      simp

/-- **What stands at a place**, by the key that stands there. By induction on
the operation's own parameters from the last, which decides for its key. -/
theorem getElem?_mergeParameters
    (hkey : ((mergeParameters shared own).map Parameter.key)[i]? = some key) :
    (mergeParameters shared own)[i]? =
      if ((mergeParameters shared own).map Parameter.key).idxOf key = i then
        (lastOf own key).or shared[i]?
      else shared[i]? := by
  induction own using List.reverseRecOn with
  | nil =>
    rw [lastOf, List.filter_nil, List.getLast?_nil, Option.none_or, ite_self]
    rfl
  | append_singleton own new ih =>
    rw [mergeParameters_concat] at hkey ⊢
    rw [getElem?_keys_overrideParameter] at hkey
    rw [getElem?_overrideParameter, lastOf_concat]
    by_cases hplace : ((mergeParameters shared own).map Parameter.key).idxOf new.key = i
    · rw [if_pos hplace, Option.some.injEq] at hkey
      subst hkey
      rw [idxOf_keys_overrideParameter (.inr rfl), if_pos hplace, if_pos hplace, if_pos rfl,
        Option.some_or]
    · rw [if_neg hplace] at hkey
      have hold : key ∈ (mergeParameters shared own).map Parameter.key := List.mem_of_getElem? hkey
      rw [if_neg hplace, idxOf_keys_overrideParameter (.inl hold), ih hkey]
      by_cases hfirst : ((mergeParameters shared own).map Parameter.key).idxOf key = i
      · -- the new parameter has another key, since the first place of its key is another
        have hne : new.key ≠ key := fun heq => hplace (heq ▸ hfirst)
        rw [if_pos hfirst, if_pos hfirst, if_neg hne]
      · rw [if_neg hfirst, if_neg hfirst]

/-- **Merging is exact.** The keys of the path come first, in their order, and
then those that the operation brings in, each once and in order of appearance.
At the first place of a key stands the last of the operation's own parameters
that has it, or else what the path has there; at every other place stands what
the path has there. So no key is lost, and there are as many parameters more
than the path has as there are keys among the operation's own that it has not. -/
theorem mergeParameters_exact (shared own : List Parameter) :
    (mergeParameters shared own).map Parameter.key =
        shared.map Parameter.key ++ newKeys shared own ∧
      (newKeys shared own).Nodup ∧
      (∀ key, key ∈ newKeys shared own ↔
        key ∈ own.map Parameter.key ∧ key ∉ shared.map Parameter.key) ∧
      (∀ i key, ((mergeParameters shared own).map Parameter.key)[i]? = some key →
        (mergeParameters shared own)[i]? =
          if ((mergeParameters shared own).map Parameter.key).idxOf key = i then
            (lastOf own key).or shared[i]?
          else shared[i]?) ∧
      (∀ p ∈ shared ++ own, p.key ∈ (mergeParameters shared own).map Parameter.key) ∧
      (mergeParameters shared own).length = shared.length + (newKeys shared own).length := by
  have hkeys := keys_mergeParameters shared own
  refine ⟨hkeys, nodup_newKeys shared own, fun key => mem_newKeys_iff,
    fun i key hkey => getElem?_mergeParameters hkey, fun p hp => ?_, ?_⟩
  · rw [hkeys, List.mem_append, mem_newKeys_iff]
    rcases List.mem_append.1 hp with hshared | hown
    · exact .inl (List.mem_map_of_mem hshared)
    · have hmem : p.key ∈ own.map Parameter.key := List.mem_map_of_mem hown
      tauto
  · rw [← List.length_map Parameter.key, hkeys, List.length_append, List.length_map]

/-- A repeated parameter of the path stays in its later place. Of repeated own
ones the last counts. -/
example :
    mergeParameters [⟨"a", .path, true, .string⟩, ⟨"a", .path, true, .number⟩]
        [⟨"b", .query, false, .string⟩, ⟨"a", .path, true, .object⟩, ⟨"b", .query, true, .array⟩] =
      [⟨"a", .path, true, .object⟩, ⟨"a", .path, true, .number⟩, ⟨"b", .query, true, .array⟩] := by
  decide

end RestModel
