import RestModel.Proofs.Reference

/-!
# Chains — how many links lead where

The values of a chain are counted from the one that it starts with, and each
but the last is a reference to the next (`Resolver.chainAt`). Resolving looks
at no more than seventeen of them. It answers with the first that is no
reference, fails with the first reference that has no target, and fails with
the reference that the chain began with if all seventeen lead on
(`Resolver.resolve_exact`): the reference of the seventeenth value is looked
up as well, so that it has no target is told before the chain's depth is. A
chain that comes back to a reference never ends, so it is always too deep.
-/

namespace RestModel

namespace Resolver

variable {R : Resolver} {value last target : Json} {first reference : String} {links visits : Nat}

/-! ## The values of a chain -/

/-- The value that a chain holds after so many links, if it has as many. -/
def chainAt (R : Resolver) (value : Json) : Nat → Option Json
  | 0 => some value
  | links + 1 => (R.chainAt value links).bind fun last => last.reference?.bind R

/-- The reference that a chain holds after so many links, if it holds one there. -/
def referenceAt (R : Resolver) (value : Json) (links : Nat) : Option String :=
  (R.chainAt value links).bind Json.reference?

/-- After so many links a chain holds a reference that has a target. -/
def LeadsOn (R : Resolver) (value : Json) (links : Nat) : Prop :=
  ∃ reference, R.referenceAt value links = some reference ∧ (R reference).isSome

/-- The next value of a chain is the target of its reference. -/
theorem chainAt_succ (R : Resolver) (value : Json) (links : Nat) :
    R.chainAt value (links + 1) = (R.referenceAt value links).bind R := by
  rw [chainAt, referenceAt, Option.bind_assoc]

/-- A chain goes on from each of its values as if it began there. -/
theorem chainAt_add (R : Resolver) (value : Json) (m n : Nat) :
    R.chainAt value (m + n) = (R.chainAt value m).bind fun last => R.chainAt last n := by
  induction n with
  | zero => simp [chainAt]
  | succ n ih =>
    rw [← Nat.add_assoc, chainAt, ih, Option.bind_assoc]
    rfl

/-- A chain leads on just where it has another link. -/
theorem leadsOn_iff : R.LeadsOn value links ↔ (R.chainAt value (links + 1)).isSome := by
  rw [chainAt_succ, LeadsOn]
  cases R.referenceAt value links <;> simp

/-- A chain has so many links if it leads on before each of them. -/
theorem isSome_chainAt_iff :
    (R.chainAt value links).isSome ↔ ∀ n < links, R.LeadsOn value n := by
  induction links with
  | zero => simp [chainAt]
  | succ links ih =>
    rw [Nat.forall_lt_succ_right, ← ih, leadsOn_iff, chainAt]
    cases R.chainAt value links <;> simp

/-- A chain leads on up to any value that it holds. -/
theorem leadsOn_of_chainAt (h : R.chainAt value links = some last) :
    ∀ n < links, R.LeadsOn value n :=
  isSome_chainAt_iff.1 (h ▸ rfl)

/-- A chain holds a reference where it holds a value that is one. -/
theorem referenceAt_eq_some_iff :
    R.referenceAt value links = some reference ↔
      ∃ last, R.chainAt value links = some last ∧ last.reference? = some reference :=
  Option.bind_eq_some_iff

/-! ## How a chain ends

Whoever visits a chain's values in turn comes to a value that is no
reference, or to a reference without a target, or has to give up. -/

/-- How a chain ends for whom it allows so many visits. -/
inductive Ends (R : Resolver) (first : String) (visits : Nat) (value : Json) :
    Except ReferenceFault Json → Prop
  | concrete {links : Nat} {target : Json} : links < visits →
      R.chainAt value links = some target → target.reference? = none →
      Ends R first visits value (.ok target)
  | missing {links : Nat} {reference : String} : links < visits →
      R.referenceAt value links = some reference → R reference = none →
      Ends R first visits value (.error (.missing reference))
  | tooDeep : (∀ links < visits, R.LeadsOn value links) →
      Ends R first visits value (.error (.tooDeep maxLinks first))

/-- A chain that has gone on for some visits ends within the next or leads on. -/
theorem ends_or_leadsOn (h : R.chainAt value links = some last) (hlt : links < visits) :
    (∃ outcome, Ends R first visits value outcome) ∨ R.LeadsOn value links := by
  rcases href : last.reference? with - | reference
  · exact .inl ⟨_, .concrete hlt h href⟩
  have hat : R.referenceAt value links = some reference := referenceAt_eq_some_iff.2 ⟨last, h, href⟩
  rcases htarget : R reference with - | target
  · exact .inl ⟨_, .missing hlt hat htarget⟩
  · exact .inr ⟨reference, hat, htarget ▸ rfl⟩

/-- Every chain ends in some way. By induction on how far it is known to lead on. -/
theorem exists_ends (R : Resolver) (first : String) (visits : Nat) (value : Json) :
    ∃ outcome, Ends R first visits value outcome := by
  by_contra hnone
  have hleads : ∀ n, n ≤ visits → ∀ links < n, R.LeadsOn value links := by
    intro n
    induction n with
    | zero => intro _ links hlinks; omega
    | succ n ih =>
      intro hn
      rw [Nat.forall_lt_succ_right]
      have hbefore := ih (by omega)
      obtain ⟨last, hlast⟩ := Option.isSome_iff_exists.1 (isSome_chainAt_iff.2 hbefore)
      exact ⟨hbefore, (ends_or_leadsOn hlast (by omega)).resolve_left hnone⟩
  exact hnone ⟨_, .tooDeep (hleads visits (Nat.le_refl _))⟩

/-- A chain is followed link by link: what it takes to visit its first values
is spent, and the rest goes to the value that they lead to. -/
theorem chase_add (h : R.chainAt value links = some last) :
    chase R first (links + visits) value = chase R first visits last := by
  induction links generalizing visits last with
  | zero =>
    cases h
    rw [Nat.zero_add]
  | succ links ih =>
    rw [chainAt_succ, Option.bind_eq_some_iff] at h
    obtain ⟨reference, hat, htarget⟩ := h
    obtain ⟨before, hbefore, href⟩ := referenceAt_eq_some_iff.1 hat
    rw [Nat.add_assoc, Nat.add_comm 1, ih hbefore, chase_of_link href htarget]

/-- Chasing answers with how the chain ends. -/
theorem chase_of_ends {outcome : Except ReferenceFault Json}
    (h : Ends R first visits value outcome) :
    chase R first visits value = outcome := by
  cases h with
  | concrete hlt hchain hend =>
    obtain ⟨rest, rfl⟩ := Nat.exists_eq_add_of_lt hlt
    rw [Nat.add_assoc, chase_add hchain, chase_of_concrete hend]
  | missing hlt hat htarget =>
    obtain ⟨rest, rfl⟩ := Nat.exists_eq_add_of_lt hlt
    obtain ⟨last, hchain, href⟩ := referenceAt_eq_some_iff.1 hat
    rw [Nat.add_assoc, chase_add hchain, chase, href]
    simp only [htarget]
  | tooDeep hleads =>
    obtain ⟨last, hchain⟩ := Option.isSome_iff_exists.1 (isSome_chainAt_iff.2 hleads)
    rw [← Nat.add_zero visits, chase_add hchain, chase]

/-- **Chasing is exact**: its answer is the one way in which the chain ends. -/
theorem chase_eq_iff {outcome : Except ReferenceFault Json} :
    chase R first visits value = outcome ↔ Ends R first visits value outcome := by
  refine ⟨fun h => ?_, chase_of_ends⟩
  obtain ⟨other, hother⟩ := exists_ends R first visits value
  rwa [← h, chase_of_ends hother]

/-! ## Cycles -/

/-- A chain that comes back to a reference never ends. By induction on the
number of links: past the second time, the chain holds what it held as many
links before as the cycle has. -/
theorem leadsOn_of_cycle {m n : Nat} (hmn : m < n) (hm : R.referenceAt value m = some reference)
    (hn : R.referenceAt value n = some reference) : ∀ links, R.LeadsOn value links := by
  have hsame : R.chainAt value (m + 1) = R.chainAt value (n + 1) := by
    rw [chainAt_succ, chainAt_succ, hm, hn]
  have hsome : (R.chainAt value (n + 1)).isSome := by
    obtain ⟨last, hlast, -⟩ := referenceAt_eq_some_iff.1 hn
    rw [← hsame, ← leadsOn_iff]
    exact leadsOn_of_chainAt hlast m hmn
  intro links
  rw [leadsOn_iff]
  induction links using Nat.strongRecOn with
  | ind links ih =>
    rcases Nat.lt_or_ge links (n + 1) with hlt | hge
    · rw [← leadsOn_iff]
      exact isSome_chainAt_iff.1 hsome links hlt
    · -- one round of the cycle earlier
      obtain ⟨rest, rfl⟩ := Nat.exists_eq_add_of_le hge
      have hback := ih (m + 1 + rest) (by omega)
      rwa [Nat.add_assoc, chainAt_add, hsame, ← chainAt_add, ← Nat.add_assoc] at hback

/-! ## Resolving -/

/-- Resolving answers with how the chain ends. -/
theorem resolve_eq_iff {outcome : Except Failure Json} :
    R.resolve value = outcome ↔ ∃ ending,
      Ends R (value.reference?.getD "") (maxLinks + 1) value ending ∧
        ending.mapError .unresolvedReference = outcome := by
  rw [resolve]
  simp only [← chase_eq_iff, exists_eq_left']

/-- A value resolves to the first value of its chain that is no reference. -/
theorem resolve_eq_ok_iff_chainAt :
    R.resolve value = .ok target ↔ ∃ links ≤ maxLinks,
      (∀ n < links, R.LeadsOn value n) ∧ R.chainAt value links = some target ∧
        target.reference? = none := by
  rw [resolve_eq_ok_iff, chase_eq_iff]
  constructor
  · rintro ⟨hlt, hchain, hend⟩
    exact ⟨_, Nat.le_of_lt_succ hlt, leadsOn_of_chainAt hchain, hchain, hend⟩
  · rintro ⟨links, hle, -, hchain, hend⟩
    exact .concrete (Nat.lt_succ_of_le hle) hchain hend

/-- A value fails to resolve with the first reference of its chain that has no target. -/
theorem resolve_eq_missing_iff :
    R.resolve value = .error (.unresolvedReference (.missing reference)) ↔ ∃ links ≤ maxLinks,
      (∀ n < links, R.LeadsOn value n) ∧ R.referenceAt value links = some reference ∧
        R reference = none := by
  rw [resolve_eq_iff]
  constructor
  · rintro ⟨_, hends, h⟩
    cases hends with
    | concrete | tooDeep => cases h
    | missing hlt hat htarget =>
      cases h
      obtain ⟨last, hchain, -⟩ := referenceAt_eq_some_iff.1 hat
      exact ⟨_, Nat.le_of_lt_succ hlt, leadsOn_of_chainAt hchain, hat, htarget⟩
  · rintro ⟨links, hle, -, hat, htarget⟩
    exact ⟨_, .missing (Nat.lt_succ_of_le hle) hat htarget, rfl⟩

/-- A value is too deep just if its chain leads on from each value that is visited. -/
theorem resolve_eq_tooDeep_iff {limit : Nat} :
    R.resolve value = .error (.unresolvedReference (.tooDeep limit first)) ↔
      limit = maxLinks ∧ value.reference? = some first ∧ ∀ n ≤ maxLinks, R.LeadsOn value n := by
  have hleads : (∀ n < maxLinks + 1, R.LeadsOn value n) ↔ ∀ n ≤ maxLinks, R.LeadsOn value n := by
    simp only [Nat.lt_succ_iff]
  rw [resolve_eq_iff]
  constructor
  · rintro ⟨_, hends, h⟩
    cases hends with
    | concrete | missing => cases h
    | tooDeep hall =>
      cases h
      rw [hleads] at hall
      -- the first value leads on, so it is a reference
      obtain ⟨reference, hat, -⟩ := hall 0 (Nat.zero_le _)
      have href : value.reference? = some reference := hat
      exact ⟨rfl, by rw [href, Option.getD_some], hall⟩
  · rintro ⟨rfl, href, hall⟩
    exact ⟨_, .tooDeep (hleads.2 hall), by rw [href]; rfl⟩

/-- Resolving comes to one of three ends. -/
theorem resolve_trichotomy (R : Resolver) (value : Json) :
    (∃ target, R.resolve value = .ok target) ∨
      (∃ reference, R.resolve value = .error (.unresolvedReference (.missing reference))) ∨
      ∃ first, R.resolve value = .error (.unresolvedReference (.tooDeep maxLinks first)) := by
  obtain ⟨ending, hends, h⟩ := resolve_eq_iff.1 (rfl : R.resolve value = R.resolve value)
  cases hends with
  | concrete => exact .inl ⟨_, h.symm⟩
  | missing => exact .inr (.inl ⟨_, h.symm⟩)
  | tooDeep => exact .inr (.inr ⟨_, h.symm⟩)

/-- A value whose chain leads on from each value that is visited is too deep. -/
theorem resolve_of_leadsOn (h : ∀ n ≤ maxLinks, R.LeadsOn value n) :
    ∃ first, value.reference? = some first ∧
      R.resolve value = .error (.unresolvedReference (.tooDeep maxLinks first)) := by
  obtain ⟨first, hat, -⟩ := h 0 (Nat.zero_le _)
  exact ⟨first, hat, resolve_eq_tooDeep_iff.2 ⟨rfl, hat, h⟩⟩

/-- A chain that ends resolves just if it is short enough. -/
theorem exists_resolve_iff_of_chainAt (hchain : R.chainAt value links = some target)
    (hend : target.reference? = none) :
    (∃ result, R.resolve value = .ok result) ↔ links ≤ maxLinks := by
  constructor
  · rintro ⟨result, h⟩
    obtain ⟨n, hle, -, hn, hresult⟩ := resolve_eq_ok_iff_chainAt.1 h
    by_contra hlinks
    -- the chain would lead on from its last value
    obtain ⟨reference, hat, -⟩ := leadsOn_of_chainAt hchain n (by omega)
    rw [referenceAt, hn, Option.bind_some, hresult] at hat
    cases hat
  · intro hle
    exact ⟨target, resolve_eq_ok_iff_chainAt.2
      ⟨links, hle, leadsOn_of_chainAt hchain, hchain, hend⟩⟩

/-- **Resolving is exact.** A value resolves to the first value of its chain
that is no reference, if that takes sixteen links at most. It fails with the
first reference that has no target, if that stands behind sixteen links at
most. It fails with the reference that it is itself, as too deep, just if the
first seventeen values of its chain all lead on. So it always comes to one of
these ends, and a failure tells the reference that it is about. A chain that
comes back to a reference is too deep, one that ends resolves just if it has
sixteen links at most, and what a value resolves to resolves to itself,
whoever resolves it. -/
theorem resolve_exact (R : Resolver) (value : Json) :
    (∀ target, R.resolve value = .ok target ↔ ∃ links ≤ 16,
      (∀ n < links, R.LeadsOn value n) ∧ R.chainAt value links = some target ∧
        target.reference? = none) ∧
    (∀ reference, R.resolve value = .error (.unresolvedReference (.missing reference)) ↔
      ∃ links ≤ 16, (∀ n < links, R.LeadsOn value n) ∧
        R.referenceAt value links = some reference ∧ R reference = none) ∧
    (∀ limit first, R.resolve value = .error (.unresolvedReference (.tooDeep limit first)) ↔
      limit = 16 ∧ value.reference? = some first ∧ ∀ n ≤ 16, R.LeadsOn value n) ∧
    ((∃ target, R.resolve value = .ok target) ∨
      ∃ fault, R.resolve value = .error (.unresolvedReference fault) ∧
        ((∃ links ≤ 16, R.referenceAt value links = some fault.detail) ∨
          ∃ first, value.reference? = some first ∧
            fault.detail = s!"reference chain deeper than 16 starting at {first}")) ∧
    (∀ m n reference, m < n → R.referenceAt value m = some reference →
      R.referenceAt value n = some reference → ∃ first, value.reference? = some first ∧
        R.resolve value = .error (.unresolvedReference (.tooDeep 16 first))) ∧
    (∀ links target, R.chainAt value links = some target → target.reference? = none →
      ((∃ result, R.resolve value = .ok result) ↔ links ≤ 16)) ∧
    ∀ target, R.resolve value = .ok target →
      target.reference? = none ∧ ∀ R' : Resolver, R'.resolve target = .ok target := by
  refine ⟨fun target => resolve_eq_ok_iff_chainAt, fun reference => resolve_eq_missing_iff,
    fun limit first => resolve_eq_tooDeep_iff, ?_, ?_, ?_, ?_⟩
  · rcases resolve_trichotomy R value with hok | ⟨reference, h⟩ | ⟨first, h⟩
    · exact .inl hok
    · obtain ⟨links, hle, -, hat, -⟩ := resolve_eq_missing_iff.1 h
      exact .inr ⟨_, h, .inl ⟨links, hle, hat⟩⟩
    · obtain ⟨-, hfirst, -⟩ := resolve_eq_tooDeep_iff.1 h
      exact .inr ⟨_, h, .inr ⟨first, hfirst, rfl⟩⟩
  · intro m n reference hmn hm hn
    exact resolve_of_leadsOn fun links _ => leadsOn_of_cycle hmn hm hn links
  · intro links target hchain hend
    exact exists_resolve_iff_of_chainAt hchain hend
  · intro target h
    have hend : target.reference? = none := concrete_of_resolve h
    exact ⟨hend, fun R' => resolve_of_concrete hend⟩

/-- Two references that lead to each other. -/
def sampleCycle : Resolver :=
  Resolver.ofTable [("a", .obj [("$ref", .str "b")]), ("b", .obj [("$ref", .str "a")])]

/-- The cycle is too deep, and the failure names where it was entered. -/
theorem resolve_exact_sample :
    sampleCycle.referenceAt (.obj [("$ref", .str "a")]) 0 = some "a" ∧
      sampleCycle.referenceAt (.obj [("$ref", .str "a")]) 2 = some "a" ∧
      sampleCycle.resolve (.obj [("$ref", .str "a")]) =
        .error (.unresolvedReference (.tooDeep 16 "a")) ∧
      (ReferenceFault.tooDeep 16 "a").detail = "reference chain deeper than 16 starting at a" := by
  have hfirst : sampleCycle.referenceAt (.obj [("$ref", .str "a")]) 0 = some "a" := rfl
  have hagain : sampleCycle.referenceAt (.obj [("$ref", .str "a")]) 2 = some "a" := rfl
  have hcycle := (resolve_exact sampleCycle (.obj [("$ref", .str "a")])).2.2.2.2.1
  obtain ⟨first, ⟨⟩, h⟩ := hcycle 0 2 "a" (by decide) hfirst hagain
  exact ⟨hfirst, hagain, h, by decide⟩

end Resolver

end RestModel
