import RestModel.Document.Reference
import RestModel.Proofs.Traversal

/-!
# Chasing references — where a chain ends

A chain of references ends in a value that is no reference
(`Resolver.concrete_of_resolve`), and a value that is no reference is where
its chain ends, whoever resolves it (`Resolver.resolve_of_concrete`), so
resolving once more changes nothing. What a resolver finds, any resolver that
holds the same and more finds too (`Resolver.resolve_extend`): the chain is
the same, link by link.
-/

namespace RestModel

/-- A resolver holds everything that another holds, and leads to the same targets. -/
def Resolver.ExtendedBy (R R' : Resolver) : Prop :=
  ∀ reference target, R reference = some target → R' reference = some target

variable {R R' : Resolver} {first : String} {visits : Nat} {value target : Json}

/-! ## One chain -/

/-- A value that is no reference is where its chain ends. -/
theorem chase_of_concrete (h : value.reference? = none) :
    chase R first (visits + 1) value = .ok value := by
  rw [chase, h]

/-- A link of a chain is followed to the reference's target. -/
theorem chase_of_link {reference : String} (h : value.reference? = some reference)
    (htarget : R reference = some target) :
    chase R first (visits + 1) value = chase R first visits target := by
  rw [chase, h]
  simp only [htarget]

/-- A chain that ends in a value goes on to it or has ended there. -/
theorem chase_succ_eq_ok_iff :
    chase R first (visits + 1) value = .ok target ↔
      value.reference? = none ∧ value = target ∨
      ∃ reference next, value.reference? = some reference ∧ R reference = some next ∧
        chase R first visits next = .ok target := by
  rw [chase]
  rcases value.reference? with - | reference
  · simp
  rcases hnext : R reference with - | next <;> simp [hnext]

/-- Chains end in values that are no references. By induction along the
chain: only its last value is returned, and only after a look at it. -/
theorem concrete_of_chase (h : chase R first visits value = .ok target) :
    target.reference? = none := by
  induction visits generalizing value with
  | zero => cases h
  | succ visits ih =>
    rcases chase_succ_eq_ok_iff.1 h with ⟨hnone, rfl⟩ | ⟨_, next, -, -, hnext⟩
    · exact hnone
    · exact ih hnext

/-- A chain that ends in a value is the same chain for a resolver that holds
more. -/
theorem chase_extend (hR : R.ExtendedBy R') (h : chase R first visits value = .ok target) :
    chase R' first visits value = .ok target := by
  induction visits generalizing value with
  | zero => cases h
  | succ visits ih =>
    rcases chase_succ_eq_ok_iff.1 h with ⟨hnone, rfl⟩ | ⟨reference, next, href, hlink, hnext⟩
    · exact chase_of_concrete hnone
    · rw [chase_of_link href (hR _ _ hlink)]
      exact ih hnext

/-! ## Resolving -/

namespace Resolver

/-- Resolving is chasing, as far as values are concerned. -/
theorem resolve_eq_ok_iff :
    R.resolve value = .ok target ↔
      chase R (value.reference?.getD "") (maxLinks + 1) value = .ok target := by
  rw [resolve, mapError_eq_ok_iff]

/-- **A resolved value is no reference.** -/
theorem concrete_of_resolve (h : R.resolve value = .ok target) : target.reference? = none :=
  concrete_of_chase (resolve_eq_ok_iff.1 h)

/-- **What is no reference resolves to itself**, under any resolver. -/
theorem resolve_of_concrete (h : value.reference? = none) : R.resolve value = .ok value :=
  resolve_eq_ok_iff.2 (chase_of_concrete h)

/-- What resolves, resolves to the same value under a resolver that holds more. -/
theorem resolve_extend (hR : R.ExtendedBy R') (h : R.resolve value = .ok target) :
    R'.resolve value = .ok target :=
  resolve_eq_ok_iff.2 (chase_extend hR (resolve_eq_ok_iff.1 h))

end Resolver

end RestModel
