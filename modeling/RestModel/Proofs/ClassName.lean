import Mathlib.Logic.Relation
import RestModel.Naming.ClassName
import RestModel.Proofs.Cutting
import RestModel.Proofs.Pipeline

/-!
# Class names — which segments of a path count

A path is named by its segments one by one, so the name of two paths joined
by a slash is the one name before the other. A segment adds nothing just if
it is empty, a placeholder or has nothing alphanumeric in it
(`Naming.segmentName_eq_nil_iff`); such segments may be inserted, removed and
renamed without changing the name, and a path of nothing else has none
(`Naming.className?_segments`). What the naming stage makes of a path depends
on that name only.
-/

namespace RestModel

namespace Naming

open Unicode

variable {segment token path : List Char} {before after pieces pieces' : List (List Char)}
  {p q : String}

/-! ## Silent segments -/

/-- A segment that adds nothing to the name of its path. -/
inductive Silent : List Char → Prop
  | empty : Silent []
  | placeholder (inner : List Char) : Silent ('{' :: (inner ++ ['}']))
  | punctuation {segment : List Char} :
      (∀ c ∈ segment, isAlphanumeric c = false) → Silent segment

/-- A placeholder is anything in braces, even nothing. -/
theorem isPlaceholder_iff :
    isPlaceholder segment = true ↔ ∃ inner, segment = '{' :: (inner ++ ['}']) := by
  simp only [isPlaceholder, Bool.and_eq_true, decide_eq_true_eq, beq_iff_eq]
  constructor
  · rintro ⟨⟨hlength, hhead⟩, hlast⟩
    obtain ⟨others, rfl⟩ := List.head?_eq_some_iff.1 hhead
    -- the brace that ends the segment is not the one that begins it
    have hne : others ≠ [] := by
      rintro rfl
      simp at hlength
    rw [List.getLast?_cons_of_ne_nil hne] at hlast
    obtain ⟨inner, rfl⟩ := List.getLast?_eq_some_iff.1 hlast
    exact ⟨inner, rfl⟩
  · rintro ⟨inner, rfl⟩
    simp [List.getLast?_cons]

/-- A word keeps its first character when it is capitalised. -/
theorem capitalize_eq_nil_iff : capitalize token = [] ↔ token = [] := by
  cases token with
  | nil => simp [capitalize]
  | cons c rest => simp [capitalize, upper_ne_nil c]

/-- A token comes to nothing in the casing of classes just if nothing in it is alphanumeric. -/
theorem pascal_eq_nil_iff : pascal token = [] ↔ ∀ c ∈ token, isAlphanumeric c = false := by
  rw [← words_eq_nil_iff, pascal, joinPascal, List.flatten_eq_nil_iff, List.forall_mem_map,
    List.eq_nil_iff_forall_not_mem]
  simp only [capitalize_eq_nil_iff]
  exact ⟨fun hempty w hw => words_ne_nil hw (hempty w hw), fun hnone w hw => absurd hw (hnone w)⟩

/-- **The silent segments are those that add nothing.** -/
theorem segmentName_eq_nil_iff : segmentName segment = [] ↔ Silent segment := by
  rw [segmentName]
  split
  · next hplaceholder =>
    obtain ⟨inner, rfl⟩ := isPlaceholder_iff.1 hplaceholder
    exact ⟨fun _ => .placeholder inner, fun _ => rfl⟩
  · next hliteral =>
    rw [pascal_eq_nil_iff]
    constructor
    · exact .punctuation
    · rintro (_ | ⟨inner⟩ | hnone)
      · simp
      · exact absurd (isPlaceholder_iff.2 ⟨inner, rfl⟩) hliteral
      · exact hnone

/-! ## Retouching a path -/

/-- What some segments spell together. -/
def spelled (pieces : List (List Char)) : List Char := (pieces.map segmentName).flatten

/-- One silent segment is inserted, removed or renamed. -/
inductive Retouch : List (List Char) → List (List Char) → Prop
  | insert (before after : List (List Char)) {new : List Char} : Silent new →
      Retouch (before ++ after) (before ++ new :: after)
  | remove (before after : List (List Char)) {old : List Char} : Silent old →
      Retouch (before ++ old :: after) (before ++ after)
  | rename (before after : List (List Char)) {old new : List Char} : Silent old → Silent new →
      Retouch (before ++ old :: after) (before ++ new :: after)

/-- A silent segment is passed over wherever it stands. -/
theorem spelled_append_silent (h : Silent segment) :
    spelled (before ++ segment :: after) = spelled (before ++ after) := by
  simp [spelled, segmentName_eq_nil_iff.2 h]

/-- Segments spell the same after one is retouched. -/
theorem spelled_of_retouch (h : Retouch pieces pieces') : spelled pieces = spelled pieces' := by
  cases h with
  | insert before after hnew => exact (spelled_append_silent hnew).symm
  | remove before after hold => exact spelled_append_silent hold
  | rename before after hold hnew =>
    rw [spelled_append_silent hold, spelled_append_silent hnew]

/-- Segments spell the same however often they are retouched. -/
theorem spelled_of_retouched (h : Relation.ReflTransGen Retouch pieces pieces') :
    spelled pieces = spelled pieces' := by
  induction h with
  | refl => rfl
  | tail _ hlast ih => exact ih.trans (spelled_of_retouch hlast)

/-! ## Names of paths -/

/-- No name is spelled just if every segment is silent. -/
theorem pathName_eq_nil_iff : pathName path = [] ↔ ∀ segment ∈ segments path, Silent segment := by
  simp only [pathName, List.flatten_eq_nil_iff, List.forall_mem_map, segmentName_eq_nil_iff]

/-- A class is called what its path spells. -/
theorem getD_className? (p : String) :
    (className? p).getD "" = String.ofList (pathName p.toList) := by
  rw [className?]
  cases hname : pathName p.toList with
  | nil => simp
  | cons c rest => simp

theorem className?_eq_none_iff :
    className? p = none ↔ ∀ segment ∈ segments p.toList, Silent segment := by
  rw [className?, ← pathName_eq_nil_iff]
  cases pathName p.toList <;> simp

/-- A class name is never empty. -/
theorem ne_empty_of_className? {name : String} (h : className? p = some name) : name ≠ "" := by
  rw [className?] at h
  cases hname : pathName p.toList with
  | nil => simp [hname] at h
  | cons c rest =>
    simp only [hname, List.isEmpty_cons, Bool.false_eq_true, if_false, Option.some.injEq] at h
    subst h
    simp

/-- Paths whose segments spell the same have the same name, or none. -/
theorem className?_of_retouched
    (h : Relation.ReflTransGen Retouch (segments p.toList) (segments q.toList)) :
    className? p = className? q := by
  have hsame : pathName p.toList = pathName q.toList := spelled_of_retouched h
  rw [className?, className?, hsame]

/-- **Class names are built segment by segment.** The name of two paths
joined by a slash is the name of the one followed by that of the other. A
path has no name just if all of its segments are silent, and a name is not
empty. Silent segments may be inserted, removed and renamed, as many as one
likes: the path keeps its name, and the naming stage makes the same of it. -/
theorem className?_segments (p q : String) :
    (className? (p ++ "/" ++ q)).getD "" = (className? p).getD "" ++ (className? q).getD "" ∧
    (className? p = none ↔ ∀ segment ∈ segments p.toList, Silent segment) ∧
    (∀ name, className? p = some name → name ≠ "") ∧
    (Relation.ReflTransGen Retouch (segments p.toList) (segments q.toList) →
      className? p = className? q ∧
      ∀ (settings : Settings) (verbs : List VerbEntry) (resource made : Resource),
        (settings.naming ⟨p, verbs⟩ resource).outcome = .ok made ↔
          (settings.naming ⟨q, verbs⟩ resource).outcome = .ok made) := by
  refine ⟨?_, className?_eq_none_iff, fun _ => ne_empty_of_className?, fun h => ?_⟩
  · have hpath : (p ++ "/" ++ q).toList = p.toList ++ '/' :: q.toList := by simp
    rw [getD_className?, getD_className?, getD_className?, hpath, pathName_append_slash,
      String.ofList_append]
  · have hname := className?_of_retouched h
    refine ⟨hname, fun settings verbs resource made => ?_⟩
    rw [Settings.outcome_naming, Settings.outcome_naming, Settings.name?, Settings.name?, hname]
    cases (className? q).or settings.fallback <;> simp

/-- Without its leading slash, and with a dash for its placeholder, a path keeps its name. -/
theorem className?_segments_sample :
    Relation.ReflTransGen Retouch (segments "/users/\x7bid\x7d".toList)
        (segments "users/-".toList) ∧
      className? "/users/\x7bid\x7d" = className? "users/-" := by
  have hlong : segments "/users/\x7bid\x7d".toList =
      [[], "users".toList, '{' :: ("id".toList ++ ['}'])] := by decide
  have hshort : segments "users/-".toList = ["users".toList, "-".toList] := by decide
  have hremoved : Retouch (segments "/users/\x7bid\x7d".toList)
      ["users".toList, '{' :: ("id".toList ++ ['}'])] := by
    rw [hlong]
    exact .remove [] _ .empty
  have hrenamed : Retouch ["users".toList, '{' :: ("id".toList ++ ['}'])]
      (segments "users/-".toList) := by
    rw [hshort]
    exact .rename ["users".toList] [] (.placeholder "id".toList)
      (.punctuation (List.forall_mem_singleton.2 (by decide +kernel)))
  have hretouched := Relation.ReflTransGen.tail (.single hremoved) hrenamed
  exact ⟨hretouched, ((className?_segments _ _).2.2.2 hretouched).1⟩

end Naming

end RestModel
