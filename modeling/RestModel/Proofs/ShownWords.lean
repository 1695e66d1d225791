import RestModel.Proofs.Casings
import RestModel.Proofs.Recasing

/-!
# Shown words — which tokens have one casing

In the casing of parameters a word behind the first is told from the one before
it by its capital. A word that a capital does not change, as one that begins
with a digit, is shown as more of the word before it: `v_3` and `v3` have one
casing. With such words put to those before them, the words of a token are those
that its casing shows (`Naming.shown`). Tokens that show the same words have the
same casing, and where every character can be told from its capital, only they
(`Naming.camel_eq_iff`). Characters of ASCII can; a sharp s and two small s
have capitals alike.
-/

namespace RestModel

/-! ## Casing that can be undone -/

namespace Unicode

variable {c : Char}

/-- A character whose casing can be undone: it is small, and its capital is a
single character that leads back to it. What has no capital of its own is its
own capital. -/
structure Reversible (c : Char) : Prop where
  small : lower c = [c]
  capital : ∃ d, upper c = [d] ∧ lower d = [c]

/-- Small letters and digits of ASCII are told from their capitals. -/
theorem Reversible.of_isSmall (h : Naming.isSmall c = true) : Reversible c := by
  have hlower : lower c = [c] := (Naming.reads_of_isSmall h).2.2.1
  refine ⟨hlower, ?_⟩
  obtain ⟨-, hdigit⟩ := Naming.isAlpha_of_isSmall h
  cases hletter : c.isLower with
  | true =>
    obtain ⟨capital, hupper, -, -, hback, -⟩ := Naming.capital_of_isLower hletter
    exact ⟨capital, hupper, hback⟩
  | false =>
    rw [hletter] at hdigit
    exact ⟨c, Naming.upper_of_isDigit hdigit, hlower⟩

end Unicode

namespace Naming

open Unicode

variable {c : Char} {w word first first' token token' : List Char} {ws vs : List (List Char)}

/-! ## Words that stand out -/

/-- A word stands out behind another if a capital changes it. -/
def StandsOut (w : List Char) : Prop := capitalize w ≠ w

instance (w : List Char) : Decidable (StandsOut w) := inferInstanceAs (Decidable (_ ≠ _))

theorem StandsOut.ne_nil (h : StandsOut w) : w ≠ [] := by
  rintro rfl
  exact h rfl

/-- A word stands out by its beginning. -/
theorem standsOut_append (hw : w ≠ []) (rest : List Char) :
    StandsOut (w ++ rest) ↔ StandsOut w := by
  rw [StandsOut, StandsOut, capitalize_append hw, ne_eq, ne_eq, List.append_cancel_right_eq]

/-- Of the words of ASCII, those stand out that begin with a letter. -/
theorem standsOut_iff_opensHump (hw : ∀ c ∈ w, isSmall c = true) :
    StandsOut w ↔ opensHump w = true := by
  cases w with
  | nil => simp [StandsOut, opensHump, capitalize]
  | cons c rest =>
    have hc := hw c List.mem_cons_self
    obtain ⟨halpha, hdigit⟩ := isAlpha_of_isSmall hc
    rw [opensHump, halpha, StandsOut, capitalize]
    cases hletter : c.isLower with
    | true =>
      obtain ⟨capital, hupper, -, huppercase, -, -⟩ := capital_of_isLower hletter
      have hne : capital ≠ c := by
        rintro rfl
        rw [(reads_of_isSmall hc).2.1] at huppercase
        cases huppercase
      simp [hupper, hne]
    | false =>
      rw [hletter] at hdigit
      simp [upper_of_isDigit hdigit]

/-- The words that are shown from a word on: what does not stand out behind it
is more of it. -/
def shownBehind (word : List Char) : List (List Char) → List (List Char)
  | [] => [word]
  | w :: ws => if StandsOut w then word :: shownBehind w ws else shownBehind (word ++ w) ws

/-- The words that a casing shows of the given ones. -/
def shown : List (List Char) → List (List Char)
  | [] => []
  | w :: ws => shownBehind w ws

/-- No character is lost. -/
theorem flatten_shownBehind (word : List Char) (ws : List (List Char)) :
    (shownBehind word ws).flatten = word ++ ws.flatten := by
  induction ws generalizing word with
  | nil => rfl
  | cons w ws ih =>
    rw [shownBehind]
    split
    · rw [List.flatten_cons, ih, List.flatten_cons]
    · rw [ih, List.flatten_cons, List.append_assoc]

/-- A first word is left, and the others stand out. -/
theorem standsOut_of_shownBehind (word : List Char) (ws : List (List Char)) :
    ∃ first others, shownBehind word ws = first :: others ∧ (∃ rest, first = word ++ rest) ∧
      ∀ w ∈ others, StandsOut w := by
  induction ws generalizing word with
  | nil => exact ⟨word, [], rfl, ⟨[], (List.append_nil _).symm⟩, List.forall_mem_nil _⟩
  | cons w ws ih =>
    rw [shownBehind]
    split
    · next hw =>
      obtain ⟨second, others, hshown, ⟨rest, rfl⟩, hothers⟩ := ih w
      rw [hshown]
      refine ⟨word, _, rfl, ⟨[], (List.append_nil _).symm⟩, List.forall_mem_cons.2 ⟨?_, hothers⟩⟩
      exact (standsOut_append hw.ne_nil rest).2 hw
    · obtain ⟨first, others, hshown, ⟨rest, rfl⟩, hothers⟩ := ih (word ++ w)
      exact ⟨_, others, hshown, ⟨w ++ rest, List.append_assoc ..⟩, hothers⟩

/-- **A casing shows the shown words.** By induction on the words behind the
first, each of which is shown in one way or the other. -/
theorem joinCamel_shownBehind (word : List Char) (ws : List (List Char)) :
    joinCamel (shownBehind word ws) = joinCamel (word :: ws) := by
  induction ws generalizing word with
  | nil => rfl
  | cons w ws ih =>
    rw [shownBehind, joinCamel, joinPascal_cons]
    split
    · next hw =>
      obtain ⟨first, others, hshown, ⟨rest, rfl⟩, hothers⟩ := standsOut_of_shownBehind w ws
      have hne : ∀ v ∈ shownBehind w ws, v ≠ [] := by
        rw [hshown]
        exact List.forall_mem_cons.2 ⟨List.append_ne_nil_of_left_ne_nil hw.ne_nil rest,
          fun v hv => (hothers v hv).ne_nil⟩
      rw [joinCamel, joinPascal_eq_capitalize hne, ih, joinCamel, capitalize_append hw.ne_nil]
    · next hw =>
      have hself : capitalize w = w := not_not.1 hw
      rw [ih, joinCamel, hself, List.append_assoc]

theorem joinCamel_shown (ws : List (List Char)) : joinCamel (shown ws) = joinCamel ws := by
  cases ws with
  | nil => rfl
  | cons w ws => exact joinCamel_shownBehind w ws

/-! ## Reading a casing back -/

/-- Where a text changes from one kind of characters to another, it can be cut in one way. -/
theorem append_inj_of_boundary {α : Type} {p : α → Bool} {a b s t : List α}
    (ha : ∀ x ∈ a, p x = true) (hb : ∀ x ∈ b, p x = true) (hs : ∀ x ∈ s.head?, p x = false)
    (ht : ∀ x ∈ t.head?, p x = false) (h : a ++ s = b ++ t) : a = b ∧ s = t := by
  have htake {a s : List α} (ha : ∀ x ∈ a, p x = true) (hs : ∀ x ∈ s.head?, p x = false) :
      (a ++ s).takeWhile p = a := by
    rw [List.takeWhile_append_of_pos ha]
    cases s with
    | nil => simp
    | cons x s => simp [hs x rfl]
  have hab : a = b := by rw [← htake ha hs, h, htake hb ht]
  subst hab
  exact ⟨rfl, List.append_cancel_left h⟩

/-- A character that lower case leaves as it is. -/
def isFixed (c : Char) : Bool := lower c == [c]

/-- A word that stands out begins with a capital, from which its first character is known. -/
theorem StandsOut.capitalize_eq (h : StandsOut w) (hw : ∀ c ∈ w, Reversible c) :
    ∃ c d rest, w = c :: rest ∧ capitalize w = d :: rest ∧ lower d = [c] ∧ isFixed d = false := by
  cases w with
  | nil => exact absurd rfl h
  | cons c rest =>
    obtain ⟨d, hupper, hback⟩ := (hw c List.mem_cons_self).capital
    have hcapital : capitalize (c :: rest) = d :: rest := by rw [capitalize, hupper]; rfl
    refine ⟨c, d, rest, rfl, hcapital, hback, ?_⟩
    rw [isFixed, hback, beq_eq_false_iff_ne]
    intro hsame
    obtain rfl : c = d := List.singleton_inj.1 hsame
    exact h hcapital

/-- Words that stand out, made of characters whose casing can be undone. -/
def Readable (ws : List (List Char)) : Prop :=
  ∀ w ∈ ws, StandsOut w ∧ ∀ c ∈ w, Reversible c

/-- What follows the first word begins with a capital. -/
theorem isFixed_of_head?_joinPascal (hws : Readable ws) :
    ∀ d ∈ (joinPascal ws).head?, isFixed d = false := by
  cases ws with
  | nil => exact nofun
  | cons w ws =>
    obtain ⟨hstands, hw⟩ := hws w List.mem_cons_self
    obtain ⟨c, d, rest, -, hcapital, -, hfixed⟩ := hstands.capitalize_eq hw
    rw [joinPascal_cons, hcapital]
    rintro _ ⟨⟩
    exact hfixed

theorem isFixed_of_reversible (hw : ∀ c ∈ w, Reversible c) : ∀ c ∈ w, isFixed c = true :=
  fun c hc => beq_iff_eq.2 (hw c hc).small

/-- What follows the first word is known from the joined text, and so is the first word. -/
theorem cut_joinPascal (hws : Readable ws) (hvs : Readable vs) (hfirst : ∀ c ∈ first, Reversible c)
    (hfirst' : ∀ c ∈ first', Reversible c)
    (h : first ++ joinPascal ws = first' ++ joinPascal vs) :
    first = first' ∧ joinPascal ws = joinPascal vs :=
  append_inj_of_boundary (isFixed_of_reversible hfirst) (isFixed_of_reversible hfirst')
    (isFixed_of_head?_joinPascal hws) (isFixed_of_head?_joinPascal hvs) h

theorem joinPascal_eq_nil_iff (hws : Readable ws) : joinPascal ws = [] ↔ ws = [] := by
  cases ws with
  | nil => exact ⟨fun _ => rfl, fun _ => rfl⟩
  | cons w ws =>
    have hne : w ≠ [] := (hws w List.mem_cons_self).1.ne_nil
    rw [joinPascal_cons, List.append_eq_nil_iff, capitalize_eq_nil_iff]
    exact ⟨fun h => absurd h.1 hne, nofun⟩

/-- **Words that stand out can be read back** from their casing: by induction on
the words, each of which ends before the next capital. -/
theorem joinPascal_inj (hws : Readable ws) (hvs : Readable vs)
    (h : joinPascal ws = joinPascal vs) : ws = vs := by
  induction ws generalizing vs with
  | nil => exact ((joinPascal_eq_nil_iff hvs).1 h.symm).symm
  | cons w ws ih =>
    cases vs with
    | nil => exact (joinPascal_eq_nil_iff hws).1 h
    | cons v vs =>
      obtain ⟨⟨hstands, hw⟩, hothers⟩ := List.forall_mem_cons.1 hws
      obtain ⟨⟨hstands', hv⟩, hothers'⟩ := List.forall_mem_cons.1 hvs
      obtain ⟨c, d, rest, rfl, hcapital, hback, -⟩ := hstands.capitalize_eq hw
      obtain ⟨c', d', rest', rfl, hcapital', hback', -⟩ := hstands'.capitalize_eq hv
      rw [joinPascal_cons, joinPascal_cons, hcapital, hcapital'] at h
      obtain ⟨rfl, hbehind⟩ := List.cons.inj h
      obtain rfl : c = c' := List.singleton_inj.1 (hback.symm.trans hback')
      obtain ⟨rfl, hjoined⟩ := cut_joinPascal hothers hothers' (List.forall_mem_cons.1 hw).2
        (List.forall_mem_cons.1 hv).2 hbehind
      rw [ih hothers hothers' hjoined]

/-- What is shown of words whose casing can be undone: a first word, and others
that can be read back. -/
theorem readable_of_shownBehind (hword : ∀ c ∈ word, Reversible c)
    (hws : ∀ w ∈ ws, ∀ c ∈ w, Reversible c) :
    ∃ first others, shownBehind word ws = first :: others ∧ (∀ c ∈ first, Reversible c) ∧
      Readable others := by
  obtain ⟨first, others, hshown, -, hothers⟩ := standsOut_of_shownBehind word ws
  have hall : ∀ v ∈ first :: others, ∀ c ∈ v, Reversible c := by
    intro v hv c hc
    have hmem : c ∈ (shownBehind word ws).flatten := by
      rw [hshown]
      exact List.mem_flatten.2 ⟨v, hv, hc⟩
    rw [flatten_shownBehind, List.mem_append] at hmem
    rcases hmem with hmem | hmem
    · exact hword c hmem
    · obtain ⟨w, hw, hcw⟩ := List.mem_flatten.1 hmem
      exact hws w hw c hcw
  obtain ⟨hfirst, hrest⟩ := List.forall_mem_cons.1 hall
  exact ⟨first, others, hshown, hfirst, fun w hw => ⟨hothers w hw, hrest w hw⟩⟩

/-! ## Tokens -/

/-- Tokens that show the same words have the same casing. -/
theorem camel_eq_of_shown (h : shown (words token) = shown (words token')) :
    camel token = camel token' := by
  rw [camel, camel, ← joinCamel_shown, h, joinCamel_shown]

/-- A token whose casing is empty shows nothing. -/
theorem words_eq_nil_of_camel (h : camel token = []) : words token = [] :=
  words_eq_nil_iff.2 (camel_eq_nil_iff.1 h)

/-- **Two tokens have one casing just if they show the same words**, if the
casing of all of their characters can be undone. -/
theorem camel_eq_iff (htoken : ∀ w ∈ words token, ∀ c ∈ w, Reversible c)
    (htoken' : ∀ w ∈ words token', ∀ c ∈ w, Reversible c) :
    camel token = camel token' ↔ shown (words token) = shown (words token') := by
  refine ⟨fun h => ?_, camel_eq_of_shown⟩
  cases hwords : words token with
  | nil =>
    have hempty : camel token = [] := by rw [camel, hwords]; rfl
    rw [words_eq_nil_of_camel (h ▸ hempty)]
  | cons word ws =>
    cases hwords' : words token' with
    | nil =>
      have hempty : camel token' = [] := by rw [camel, hwords']; rfl
      rw [words_eq_nil_of_camel (h.trans hempty)] at hwords
      cases hwords
    | cons word' vs =>
      rw [hwords] at htoken
      rw [hwords'] at htoken'
      obtain ⟨hword, hws⟩ := List.forall_mem_cons.1 htoken
      obtain ⟨hword', hvs⟩ := List.forall_mem_cons.1 htoken'
      obtain ⟨first, others, hshown, hfirst, hothers⟩ := readable_of_shownBehind hword hws
      obtain ⟨first', others', hshown', hfirst', hothers'⟩ := readable_of_shownBehind hword' hvs
      have hjoined : joinCamel (first :: others) = joinCamel (first' :: others') := by
        rw [← hshown, ← hshown', joinCamel_shownBehind, joinCamel_shownBehind, ← hwords, ← hwords']
        exact h
      obtain ⟨rfl, hbehind⟩ := cut_joinPascal hothers hothers' hfirst hfirst' hjoined
      rw [shown, shown, hshown, hshown', joinPascal_inj hothers hothers' hbehind]

/-- A sharp s has the capital of two words, so it is not enough to look at the casing. -/
example : camel "a_ß".toList = camel "a_s_s".toList ∧
    shown (words "a_ß".toList) ≠ shown (words "a_s_s".toList) := by
  decide +kernel

/-- A name in whose words every character can be told from its capital. -/
def Legible (name : String) : Prop := ∀ w ∈ words name.toList, ∀ c ∈ w, Reversible c

/-- Names of ASCII are legible. -/
theorem legible_of_ascii {name : String} (h : ∀ c ∈ name.toList, c.toNat < 128) : Legible name :=
  fun _ hw c hc => .of_isSmall (isSmall_of_mem_words h hw c hc)

end Naming

end RestModel
