/-!
# Character tables — how a Unicode property and a case mapping are written down

A property is a list of `Stretch`es, a case mapping a list of `Shift`s
beside the few characters that map to more than one. Looking a character
up is a search through the list, so what holds of every row holds of every
character: `listed_iff` and `CaseMap.apply_cases` lead from a character to
its row.
-/

namespace RestModel

namespace Unicode

/-- Every `stride`-th code point from `first` up to `last`. -/
structure Stretch where
  first : Nat
  last : Nat
  stride : Nat
  deriving DecidableEq, Repr

/-- A code point lies on a stretch. -/
def Stretch.covers (s : Stretch) (n : Nat) : Bool :=
  decide (s.first ≤ n) && decide (n ≤ s.last) && (n - s.first) % s.stride == 0

/-- A character lies on some stretch of a table. -/
def listed (table : List Stretch) (c : Char) : Bool :=
  table.any (·.covers c.toNat)

/-- The code points of a stretch, each of which maps to the one `offset` further on. -/
structure Shift where
  source : Stretch
  offset : Int
  deriving DecidableEq, Repr

/-- A case mapping: most characters that it changes move by a fixed offset
within their stretch, a few become several characters. All others stay. -/
structure CaseMap where
  shifts : List Shift
  expansions : List (Nat × List Nat)

/-- What one character becomes. An expansion is looked for first; the two
parts of a mapping list different characters. -/
def CaseMap.apply (m : CaseMap) (c : Char) : List Char :=
  match m.expansions.find? (·.1 == c.toNat) with
  | some (_, targets) => targets.map Char.ofNat
  | none =>
    match m.shifts.find? (·.source.covers c.toNat) with
    | some shift => [Char.ofNat (c.toNat + shift.offset).toNat]
    | none => [c]

/-- **Lookup is by row**: a listed character is covered by a row of its table. -/
theorem listed_iff {table : List Stretch} {c : Char} :
    listed table c = true ↔ ∃ s ∈ table, s.covers c.toNat = true := by
  simp [listed]

/-- A mapped character comes out of an expansion, out of a shift, or is the
character itself. -/
theorem CaseMap.apply_cases (m : CaseMap) (c : Char) :
    (∃ row ∈ m.expansions, row.1 = c.toNat ∧ m.apply c = row.2.map Char.ofNat) ∨
    (∃ shift ∈ m.shifts, shift.source.covers c.toNat = true ∧
      m.apply c = [Char.ofNat (c.toNat + shift.offset).toNat]) ∨
    m.apply c = [c] := by
  unfold CaseMap.apply
  split
  · next _ targets h =>
    refine Or.inl ⟨_, List.mem_of_find?_eq_some h, ?_, rfl⟩
    simpa using List.find?_some h
  · split
    · next shift h =>
      refine Or.inr (Or.inl ⟨shift, List.mem_of_find?_eq_some h, ?_, rfl⟩)
      simpa using List.find?_some h
    · exact Or.inr (Or.inr rfl)

end Unicode

end RestModel
