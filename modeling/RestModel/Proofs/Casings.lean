import RestModel.Proofs.ClassName

/-!
# Casings — two that differ in the first letter

Both casings join the words of a token. That of classes capitalises every word
on the way, that of parameters every word but the first. No word is empty, and
a capital changes the first character of a word only, so the casing of classes
is that of parameters with a capital in front (`Naming.pascal_eq_capitalize`).
A capital makes something of every character; hence either casing is empty just
if there are no words to join (`Naming.casings_agree`).
-/

namespace RestModel

namespace Naming

open Unicode

variable {w token : List Char} {ws : List (List Char)}

/-! ## Joining words -/

/-- A capital is for the first character only. -/
theorem capitalize_append (hw : w ≠ []) (rest : List Char) :
    capitalize (w ++ rest) = capitalize w ++ rest := by
  cases w with
  | nil => exact absurd rfl hw
  | cons c w => simp [capitalize]

/-- **With a capital in front, the words of a parameter are joined as those of a class.** -/
theorem joinPascal_eq_capitalize (hws : ∀ w ∈ ws, w ≠ []) :
    joinPascal ws = capitalize (joinCamel ws) := by
  cases ws with
  | nil => rfl
  | cons first others =>
    rw [joinPascal_cons, joinCamel, capitalize_append (hws first List.mem_cons_self)]

/-! ## Tokens -/

theorem pascal_eq_capitalize (token : List Char) : pascal token = capitalize (camel token) :=
  joinPascal_eq_capitalize fun _ => words_ne_nil

/-- A token comes to nothing in the casing of parameters just if it does in that of classes. -/
theorem camel_eq_nil_iff : camel token = [] ↔ ∀ c ∈ token, isAlphanumeric c = false := by
  rw [← pascal_eq_nil_iff, pascal_eq_capitalize, capitalize_eq_nil_iff]

/-- The words of a token as characters. -/
theorem map_toList_splitWords (token : String) :
    (splitWords token).map String.toList = words token.toList := by
  rw [splitWords, List.map_map]
  exact (List.map_congr_left fun w _ => String.toList_ofList).trans (List.map_id _)

/-- **The casings agree up to the first letter.** The casing of classes is that
of parameters with its first character capitalised. Either is empty just if
nothing in the token is alphanumeric, and both are joined of the token's words,
so that tokens with the same words cannot be told apart by them. -/
theorem casings_agree (token : String) :
    pascalCase token = String.ofList (capitalize (camelCase token).toList) ∧
    (pascalCase token = "" ↔ ∀ c ∈ token.toList, isAlphanumeric c = false) ∧
    (camelCase token = "" ↔ ∀ c ∈ token.toList, isAlphanumeric c = false) ∧
    pascalCase token = String.ofList (joinPascal ((splitWords token).map String.toList)) ∧
    camelCase token = String.ofList (joinCamel ((splitWords token).map String.toList)) ∧
    ∀ other, splitWords token = splitWords other →
      pascalCase token = pascalCase other ∧ camelCase token = camelCase other := by
  have hpascal (token : String) :
      pascalCase token = String.ofList (joinPascal ((splitWords token).map String.toList)) := by
    rw [map_toList_splitWords]
    rfl
  have hcamel (token : String) :
      camelCase token = String.ofList (joinCamel ((splitWords token).map String.toList)) := by
    rw [map_toList_splitWords]
    rfl
  refine ⟨?_, ?_, ?_, hpascal token, hcamel token, fun other hwords => ⟨?_, ?_⟩⟩
  · rw [camelCase, String.toList_ofList, ← pascal_eq_capitalize]
    rfl
  · rw [← pascal_eq_nil_iff, ← String.toList_eq_nil_iff, pascalCase, String.toList_ofList]
  · rw [← camel_eq_nil_iff, ← String.toList_eq_nil_iff, camelCase, String.toList_ofList]
  · rw [hpascal, hpascal, hwords]
  · rw [hcamel, hcamel, hwords]

/-- However its words are parted, a token has the same casings. -/
theorem casings_agree_sample :
    splitWords "straße_ID" = splitWords "straßeId" ∧
      pascalCase "straße_ID" = pascalCase "straßeId" ∧
      camelCase "straße_ID" = camelCase "straßeId" := by
  have hwords : splitWords "straße_ID" = splitWords "straßeId" := by decide +kernel
  exact ⟨hwords, (casings_agree "straße_ID").2.2.2.2.2 "straßeId" hwords⟩

/-- A sharp s in front has a capital of two letters. -/
example : camelCase "ß-id" = "ßId" ∧ pascalCase "ß-id" = "SSId" := by
  decide +kernel

end Naming

end RestModel
