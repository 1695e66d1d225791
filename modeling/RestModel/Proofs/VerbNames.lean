import Mathlib.Data.List.Basic
import RestModel.Verb
import RestModel.Proofs.Characters

/-!
# Verb names — which texts name a verb

A text is put in lower case before it is compared with the verbs' tokens, and
the full mapping also brings characters from beyond ASCII down to letters: the
Kelvin sign becomes `k`, a dotted capital `I` an `i` with a dot above. No
other character does (`Unicode.lower_of_not_ascii`), and no token has a `k` in
it. So a text names a verb just if it is the verb's token up to the case of
its letters (`Verb.ofName?_eq_some_iff`). Nor does it matter that a capital
sigma has two forms in lower case: both are beyond ASCII.
-/

namespace RestModel

/-! ## Beyond ASCII -/

namespace Unicode

variable {c : Char}

/-- Every code that a shift leads to is a character's and beyond ASCII. -/
def Shift.leadsBeyondAscii (shift : Shift) : Bool :=
  let first := shift.source.first + shift.offset
  let last := shift.source.last + shift.offset
  decide (128 ≤ first) && decide (last < 0xD800) ||
    decide (0xE000 ≤ first) && decide (last < 0x110000)

/-- What is shifted beyond ASCII has such a code. -/
theorem Shift.le_toNat_of_leadsBeyondAscii {shift : Shift} {n : Nat}
    (h : shift.leadsBeyondAscii = true) (hn : shift.source.covers n = true) :
    128 ≤ (Char.ofNat (n + shift.offset).toNat).toNat := by
  simp only [leadsBeyondAscii, Bool.or_eq_true, Bool.and_eq_true, decide_eq_true_eq] at h
  simp only [Stretch.covers, Bool.and_eq_true, decide_eq_true_eq] at hn
  have hvalid : (n + shift.offset).toNat.isValidChar := by
    rw [Nat.isValidChar]
    omega
  rw [toNat_ofNat_of_isValidChar hvalid]
  omega

/-- **Only the Kelvin sign becomes a plain letter in lower case**: of any other
character beyond ASCII something remains beyond ASCII. -/
theorem lower_of_not_ascii (hc : 128 ≤ c.toNat) :
    (∃ d ∈ lower c, 128 ≤ d.toNat) ∨ lower c = ['k'] := by
  -- the last of the three is the row of the Kelvin sign
  have hrows : (lowercaseMap.shifts.all fun shift => Nat.blt shift.source.last 128 ||
      shift.leadsBeyondAscii || shift == ⟨⟨0x212A, 0x212A, 1⟩, -8383⟩) = true := by
    decide +kernel
  have hexpansions : ∀ row ∈ lowercaseMap.expansions, ∃ n ∈ row.2, 128 ≤ (Char.ofNat n).toNat := by
    decide
  rcases lowercaseMap.apply_cases c with ⟨row, hrow, -, happly⟩ | ⟨shift, hshift, hcovers, happly⟩ |
    happly
  · obtain ⟨n, hn, hcode⟩ := hexpansions row hrow
    refine .inl ⟨Char.ofNat n, ?_, hcode⟩
    rw [lower, happly]
    exact List.mem_map_of_mem hn
  · have hrow := List.all_eq_true.1 hrows shift hshift
    rw [Bool.or_eq_true, Bool.or_eq_true, Nat.blt_eq, beq_iff_eq] at hrow
    rcases hrow with (hlast | hbeyond) | rfl
    · simp only [Stretch.covers, Bool.and_eq_true, decide_eq_true_eq] at hcovers
      omega
    · refine .inl ⟨_, ?_, Shift.le_toNat_of_leadsBeyondAscii hbeyond hcovers⟩
      rw [lower, happly]
      exact List.mem_singleton_self _
    · have hcode : c.toNat = 0x212A := by
        simp only [Stretch.covers, Bool.and_eq_true, decide_eq_true_eq] at hcovers
        omega
      refine .inr ?_
      rw [lower, happly, hcode]
      decide
  · refine .inl ⟨c, ?_, hc⟩
    rw [lower, happly]
    exact List.mem_singleton_self c

/-- What a text becomes in lower case: each character its lowercase form, except
that a capital sigma may take the form that it has at the end of a word. Where it
does is left open. -/
inductive LowersTo : List Char → List Char → Prop
  | nil : LowersTo [] []
  | char (c : Char) {s t : List Char} : LowersTo s t → LowersTo (c :: s) (lower c ++ t)
  | finalSigma {s t : List Char} : LowersTo s t → LowersTo ('Σ' :: s) ('ς' :: t)

/-- A text can be put in lower case character by character. -/
theorem lowersTo_flatMap (s : List Char) : LowersTo s (s.flatMap lower) := by
  induction s with
  | nil => exact .nil
  | cons c s ih =>
    rw [List.flatMap_cons]
    exact .char c ih

/-- Without a sigma, as in ASCII, there is no other way. -/
theorem LowersTo.eq_flatMap {s t : List Char} (h : LowersTo s t)
    (hascii : ∀ c ∈ s, c.toNat < 128) : t = s.flatMap lower := by
  induction h with
  | nil => rfl
  | char c _ ih => rw [List.flatMap_cons, ih (List.forall_mem_cons.1 hascii).2]
  | finalSigma _ _ => exact absurd (List.forall_mem_cons.1 hascii).1 (by decide)

/-- The plain lower case leaves everything beyond ASCII as it is. -/
theorem toLower_of_not_ascii (hc : 128 ≤ c.toNat) : c.toLower = c := by
  refine dif_neg ?_
  rw [ge_iff_le, UInt32.le_iff_toNat_le, UInt32.le_iff_toNat_le]
  have hcode : c.val.toNat = c.toNat := rfl
  have hlast : 'Z'.val.toNat = 90 := rfl
  omega

end Unicode

/-! ## Tokens in any case -/

namespace Verb

open Unicode

variable {text : String} {verb : Verb}

/-- A text names a verb: it is the verb's token, in whatever case its letters stand. -/
def NamedBy (verb : Verb) (text : String) : Prop :=
  text.toList.map Char.toLower = verb.token.toList

instance (verb : Verb) (text : String) : Decidable (verb.NamedBy text) :=
  inferInstanceAs (Decidable (_ = _))

/-- Tokens are made of ASCII letters other than `k`. -/
theorem plain_of_mem_token {d : Char} (h : d ∈ verb.token.toList) : d.toNat < 128 ∧ d ≠ 'k' := by
  have hall : (verb.token.toList.all fun d => decide (d.toNat < 128 ∧ d ≠ 'k')) = true := by
    cases verb <;> decide
  exact of_decide_eq_true (List.all_eq_true.1 hall d h)

/-- Nothing beyond ASCII becomes part of a token in lower case. -/
theorem ascii_of_lower_subset (verb : Verb) {c : Char}
    (h : ∀ d ∈ lower c, d ∈ verb.token.toList) : c.toNat < 128 := by
  rw [← Nat.not_le]
  intro hc
  rcases lower_of_not_ascii hc with ⟨d, hd, hcode⟩ | hkelvin
  · exact absurd (plain_of_mem_token (h d hd)).1 (Nat.not_lt.2 hcode)
  · have hk : 'k' ∈ verb.token.toList := h 'k' (by rw [hkelvin]; exact List.mem_singleton_self _)
    exact (plain_of_mem_token hk).2 rfl

theorem ascii_of_toLower_mem (verb : Verb) {c : Char} (h : c.toLower ∈ verb.token.toList) :
    c.toNat < 128 := by
  rw [← Nat.not_le]
  intro hc
  rw [toLower_of_not_ascii hc] at h
  exact absurd (plain_of_mem_token h).1 (Nat.not_lt.2 hc)

/-- A text that names a verb is ASCII. -/
theorem NamedBy.ascii (h : verb.NamedBy text) : ∀ c ∈ text.toList, c.toNat < 128 := by
  intro c hc
  refine ascii_of_toLower_mem verb ?_
  rw [NamedBy] at h
  rw [← h]
  exact List.mem_map_of_mem hc

/-- On ASCII the full mapping to lower case is the plain one. -/
theorem flatMap_lower_of_ascii {s : List Char} (h : ∀ c ∈ s, c.toNat < 128) :
    s.flatMap lower = s.map Char.toLower := by
  rw [List.map_eq_flatMap]
  exact List.flatMap_congr fun c hc => lower_ascii (h c hc)

/-- Characters that put together a verb's token in lower case are ASCII. -/
theorem ascii_of_lowersTo {s t : List Char} (h : LowersTo s t)
    (htoken : ∀ d ∈ t, d ∈ verb.token.toList) : ∀ c ∈ s, c.toNat < 128 := by
  induction h with
  | nil => exact List.forall_mem_nil _
  | char c _ ih =>
    rw [List.forall_mem_append] at htoken
    exact List.forall_mem_cons.2 ⟨ascii_of_lower_subset verb htoken.1, ih htoken.2⟩
  | finalSigma _ _ =>
    have hsigma := (plain_of_mem_token (htoken 'ς' List.mem_cons_self)).1
    exact absurd hsigma (by decide)

/-- **A text names the verb whose token it is up to case**, although the full
mapping to lower case is applied to it, in whatever form a sigma comes out. -/
theorem ofToken?_lowered_iff {lowered : List Char} (h : LowersTo text.toList lowered) :
    ofToken? (String.ofList lowered) = some verb ↔ verb.NamedBy text := by
  rw [ofToken?_eq_some_iff, NamedBy, ← String.toList_inj, String.toList_ofList]
  constructor
  · intro htoken
    have hascii : ∀ c ∈ text.toList, c.toNat < 128 :=
      ascii_of_lowersTo h (fun d hd => htoken ▸ hd)
    rw [← flatMap_lower_of_ascii hascii, ← h.eq_flatMap hascii, htoken]
  · intro hnamed
    have hascii : ∀ c ∈ text.toList, c.toNat < 128 := NamedBy.ascii hnamed
    rw [h.eq_flatMap hascii, flatMap_lower_of_ascii hascii, hnamed]

theorem ofName?_eq_some_iff : ofName? text = some verb ↔ verb.NamedBy text :=
  ofToken?_lowered_iff (lowersTo_flatMap text.toList)

end Verb

end RestModel
