/-!
# Spelling — the values of an enumeration by their words

A listed value is looked up by the word that spells it. Where the list holds
every value and no two are spelled alike, the look-up is the inverse of the
spelling.
-/

namespace RestModel

variable {α : Type} {all : List α} {spell : α → String} {word : String}

/-- A word leads to the value that it spells, and to no other. -/
theorem find?_spelling_eq_some_iff (hall : ∀ a, a ∈ all)
    (hinj : ∀ a b, spell a = spell b → a = b) {a : α} :
    (all.find? fun a => spell a == word) = some a ↔ word = spell a := by
  constructor
  · intro h
    have hfound := List.find?_some h
    exact (beq_iff_eq.1 hfound).symm
  · rintro rfl
    cases h : all.find? fun b => spell b == spell a with
    | none => exact absurd (List.find?_eq_none.1 h a (hall a)) (by simp)
    | some b =>
      have hfound := List.find?_some h
      rw [hinj b a (beq_iff_eq.1 hfound)]

/-- A word leads nowhere if it spells no value. -/
theorem find?_spelling_eq_none_iff (hall : ∀ a, a ∈ all) :
    (all.find? fun a => spell a == word) = none ↔ ∀ a, word ≠ spell a := by
  rw [List.find?_eq_none]
  constructor
  · intro h a heq
    exact h a (hall a) (beq_iff_eq.2 heq.symm)
  · intro h a _ heq
    exact h a (beq_iff_eq.1 heq).symm

end RestModel
