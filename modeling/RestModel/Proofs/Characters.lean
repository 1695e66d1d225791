import RestModel.Unicode.Alphanumeric
import RestModel.Unicode.Letter
import RestModel.Unicode.CaseMapping
import RestModel.Unicode.Blank

/-!
# Characters — what the tables say together, and what they say of ASCII

No row of the blank characters meets a row of the alphanumeric ones, so a
blank is never part of a word (`isAlphanumeric_of_isWhiteSpace`). A case
mapping makes at least one character of each. Below a bound a table is as good
as its rows that begin below it (`listed_below`, `CaseMap.apply_below`): the
ASCII part of every table is a row or two, and there the properties and the
mappings are the plain ones.
-/

namespace RestModel

namespace Unicode

variable {c : Char} {bound : Nat} {table others : List Stretch}

/-! ## Tables apart -/

/-- One of two stretches ends before the other begins. -/
def Stretch.apart (s t : Stretch) : Bool := Nat.blt s.last t.first || Nat.blt t.last s.first

/-- What lies on a stretch does not lie on one apart from it. -/
theorem Stretch.covers_of_apart {s t : Stretch} {n : Nat} (hapart : s.apart t = true)
    (hs : s.covers n = true) : t.covers n = false := by
  simp only [apart, Bool.or_eq_true, Nat.blt_eq] at hapart
  simp only [covers, Bool.and_eq_true, decide_eq_true_eq] at hs
  rw [Bool.eq_false_iff]
  intro ht
  simp only [covers, Bool.and_eq_true, decide_eq_true_eq] at ht
  omega

/-- No character is listed in two tables whose stretches are apart. -/
theorem listed_of_apart (hapart : (table.all fun s => others.all fun t => s.apart t) = true)
    (hc : listed table c = true) : listed others c = false := by
  obtain ⟨s, hs, hcovers⟩ := listed_iff.1 hc
  rw [List.all_eq_true] at hapart
  have hrow := List.all_eq_true.1 (hapart s hs)
  rw [listed, List.any_eq_false]
  intro t ht
  rw [Stretch.covers_of_apart (hrow t ht) hcovers]
  exact Bool.false_ne_true

/-- **A blank is not alphanumeric.** -/
theorem isAlphanumeric_of_isWhiteSpace (h : isWhiteSpace c = true) : isAlphanumeric c = false :=
  listed_of_apart (by decide +kernel) h

/-! ## Mappings -/

/-- A valid code is the code of its character. -/
theorem toNat_ofNat_of_isValidChar {n : Nat} (h : n.isValidChar) : (Char.ofNat n).toNat = n := by
  rw [Char.ofNat, dif_pos h]
  rfl

/-- A mapping whose expansions are not empty makes something of every character. -/
theorem CaseMap.apply_ne_nil {m : CaseMap} (h : ∀ row ∈ m.expansions, row.2 ≠ []) (c : Char) :
    m.apply c ≠ [] := by
  rcases m.apply_cases c with ⟨row, hrow, -, happly⟩ | ⟨shift, -, -, happly⟩ | happly
  · rw [happly]
    simpa using h row hrow
  · simp [happly]
  · simp [happly]

theorem lower_ne_nil (c : Char) : lower c ≠ [] :=
  lowercaseMap.apply_ne_nil (by decide) c

theorem upper_ne_nil (c : Char) : upper c ≠ [] :=
  uppercaseMap.apply_ne_nil (by decide +kernel) c

/-! ## Below a bound -/

/-- What is covered below a bound is covered by a stretch that begins below it. -/
theorem Stretch.first_lt_of_covers {s : Stretch} {n : Nat} (hn : n < bound)
    (h : s.covers n = true) : s.first < bound := by
  simp only [covers, Bool.and_eq_true, decide_eq_true_eq] at h
  omega

/-- Leaving out what a search passes over changes nothing for the search. -/
theorem find?_filter_of_imp {α : Type} {keep found : α → Bool} {items : List α}
    (h : ∀ a, found a = true → keep a = true) :
    (items.filter keep).find? found = items.find? found := by
  rw [List.find?_filter]
  congr 1
  funext a
  rw [Bool.eq_iff_iff, decide_eq_true_eq, and_iff_right_iff_imp]
  exact h a

/-- Below a bound only the rows that begin below it matter. -/
theorem listed_below (hc : c.toNat < bound) :
    listed table c = listed (table.filter fun s => s.first < bound) c := by
  rw [listed, listed, List.any_filter]
  congr 1
  funext s
  rw [Bool.eq_iff_iff, Bool.and_eq_true, decide_eq_true_eq, iff_comm, and_iff_right_iff_imp]
  exact Stretch.first_lt_of_covers hc

/-- The part of a mapping that begins below a bound. -/
def CaseMap.below (m : CaseMap) (bound : Nat) : CaseMap where
  shifts := m.shifts.filter fun shift => shift.source.first < bound
  expansions := m.expansions.filter fun row => row.1 < bound

/-- Below a bound only the part of a mapping that begins below it matters. -/
theorem CaseMap.apply_below (m : CaseMap) (hc : c.toNat < bound) :
    m.apply c = (m.below bound).apply c := by
  have hexpansions : (m.below bound).expansions.find? (·.1 == c.toNat) =
      m.expansions.find? (·.1 == c.toNat) := by
    refine find?_filter_of_imp fun row hrow => ?_
    rw [beq_iff_eq] at hrow
    rw [hrow]
    exact decide_eq_true hc
  have hshifts : (m.below bound).shifts.find? (·.source.covers c.toNat) =
      m.shifts.find? (·.source.covers c.toNat) :=
    find?_filter_of_imp fun shift hshift =>
      decide_eq_true (Stretch.first_lt_of_covers hc hshift)
  rw [apply, apply, hexpansions, hshifts]

/-! ## ASCII -/

/-- What holds of the first 128 characters holds of every ASCII character. -/
theorem forall_ascii {P : Char → Prop} (h : ∀ n < 128, P (Char.ofNat n)) (hc : c.toNat < 128) :
    P c := by
  have hp := h c.toNat hc
  rwa [Char.ofNat_toNat] at hp

/-- The alphanumeric characters of ASCII are its letters and digits. -/
theorem isAlphanumeric_ascii (hc : c.toNat < 128) : isAlphanumeric c = c.isAlphanum := by
  have hrows : (alphanumericTable.filter fun s => s.first < 128) =
      [⟨48, 57, 1⟩, ⟨65, 90, 1⟩, ⟨97, 122, 1⟩] := by decide +kernel
  rw [isAlphanumeric, listed_below hc, hrows]
  exact forall_ascii (P := fun c => listed _ c = c.isAlphanum) (by decide +kernel) hc

theorem isUppercase_ascii (hc : c.toNat < 128) : isUppercase c = c.isUpper := by
  have hrows : (uppercaseTable.filter fun s => s.first < 128) = [⟨65, 90, 1⟩] := by
    decide +kernel
  rw [isUppercase, listed_below hc, hrows]
  exact forall_ascii (P := fun c => listed _ c = c.isUpper) (by decide +kernel) hc

theorem isLowercase_ascii (hc : c.toNat < 128) : isLowercase c = c.isLower := by
  have hrows : (lowercaseTable.filter fun s => s.first < 128) = [⟨97, 122, 1⟩] := by
    decide +kernel
  rw [isLowercase, listed_below hc, hrows]
  exact forall_ascii (P := fun c => listed _ c = c.isLower) (by decide +kernel) hc

theorem lower_ascii (hc : c.toNat < 128) : lower c = [c.toLower] := by
  have hsmall : lowercaseMap.below 128 = ⟨[⟨⟨65, 90, 1⟩, 32⟩], []⟩ :=
    (CaseMap.mk.injEq ..).mpr ⟨by decide +kernel, by decide +kernel⟩
  rw [lower, lowercaseMap.apply_below hc, hsmall]
  exact forall_ascii (P := fun c => CaseMap.apply _ c = [c.toLower]) (by decide +kernel) hc

theorem upper_ascii (hc : c.toNat < 128) : upper c = [c.toUpper] := by
  have hsmall : uppercaseMap.below 128 = ⟨[⟨⟨97, 122, 1⟩, -32⟩], []⟩ :=
    (CaseMap.mk.injEq ..).mpr ⟨by decide +kernel, by decide +kernel⟩
  rw [upper, uppercaseMap.apply_below hc, hsmall]
  exact forall_ascii (P := fun c => CaseMap.apply _ c = [c.toUpper]) (by decide +kernel) hc

end Unicode

end RestModel
