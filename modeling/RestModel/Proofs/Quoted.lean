import RestModel.Json.Quoted

/-!
# Quoted text — what is written is read back

A character is written as itself, as a backslash with a letter, or as a
backslash with four hexadecimal digits, and the first two characters tell
which. So one step of the reader takes back what was written for one
character, whatever follows (`Quoted.next?_encodeChar`), and the quote that
ends a text is never taken for one of its characters
(`Quoted.read?_encode`).
-/

namespace RestModel

namespace Quoted

/-! ## Characters -/

/-- The four digits of a control character have its number as their value. -/
theorem hexNumber?_hexDigits {n : Nat} (h : n < 32) :
    hexNumber? ['0', '0', hexDigit (n / 16), hexDigit (n % 16)] = some n := by
  have hzero : hexValue? '0' = some 0 := by decide
  have hhigh := hexValue?_hexDigit (n / 16) (by omega)
  have hlow := hexValue?_hexDigit (n % 16) (by omega)
  simp only [hexNumber?, List.foldl_cons, List.foldl_nil, hzero, hhigh, hlow, Option.bind_eq_bind,
    Option.bind_some, Option.pure_def, Option.some.injEq]
  omega

/-- A character that is written as itself is neither a mark nor a control
character. -/
theorem next?_cons {c : Char} (hmark : c ≠ '\\') (hcontrol : ¬ c.toNat < 32) (rest : List Char) :
    next? (c :: rest) = some (c, rest) := by
  rw [next?.eq_def]
  split <;> simp_all

/-- **One step of the reader takes back one character**, whatever follows it. -/
theorem next?_encodeChar (c : Char) (rest : List Char) :
    next? (encodeChar c ++ rest) = some (c, rest) := by
  rw [encodeChar]
  -- seven escapes by a letter, then the one by digits, then the character itself
  iterate 7
    split
    · next h => rw [h]; rfl
  split
  · next h =>
    have hlow : c.toNat < 0xD800 := by omega
    simp only [List.cons_append, List.nil_append, next?, hexNumber?_hexDigits h, hlow,
      decide_true, Bool.true_or, if_true, Char.ofNat_toNat]
  · next hmark _ _ _ _ _ hcontrol => exact next?_cons hmark hcontrol rest

/-- Nothing that is written for a character begins with a quote. -/
theorem encodeChar_eq_cons (c : Char) : ∃ d rest, encodeChar c = d :: rest ∧ d ≠ '"' := by
  rw [encodeChar]
  repeat' split
  all_goals first
    | exact ⟨_, _, rfl, by decide⟩
    | exact ⟨_, _, rfl, by assumption⟩

/-! ## Texts -/

/-- A text that begins with what was written for a character is read as that
character and the text of the rest. -/
theorem read?_encodeChar_append (c : Char) (rest : List Char) :
    read? (encodeChar c ++ rest) =
      (read? rest).map fun (text, after) => (c :: text, after) := by
  obtain ⟨d, more, hd, hquote⟩ := encodeChar_eq_cons c
  have hnext : next? (d :: (more ++ rest)) = some (c, rest) := by
    rw [← List.cons_append, ← hd]
    exact next?_encodeChar c rest
  rw [hd, List.cons_append, read?]
  · split
    · next h => rw [hnext] at h; cases h
    · next h =>
      rw [hnext] at h
      cases h
      rfl
  · exact fun h => hquote h

/-- **Written text is read back up to its closing quote.** -/
theorem read?_encode (s rest : List Char) :
    read? (s.flatMap encodeChar ++ '"' :: rest) = some (s, rest) := by
  induction s with
  | nil => simp [read?]
  | cons c s ih =>
    rw [List.flatMap_cons, List.append_assoc, read?_encodeChar_append, ih]
    rfl

end Quoted

end RestModel
