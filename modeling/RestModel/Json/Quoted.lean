import RestModel.Hexadecimal

/-!
# Quoted text — JSON's escapes, written and read

Written, a text escapes the quote, the backslash and the control characters
below the space, five of them by a letter and the rest by `\u` and four
lowercase hexadecimal digits. Read, any character may come as an escape;
one outside the basic plane comes as a pair of surrogates, and half a pair
is refused, like a bare control character. What `encode` writes `read?`
gives back.
-/

namespace RestModel

namespace Quoted

/-! ## Writing -/

/-- A character as it stands between quotes. -/
def encodeChar (c : Char) : List Char :=
  if c = '"' then ['\\', '"']
  else if c = '\\' then ['\\', '\\']
  else if c = '\x08' then ['\\', 'b']
  else if c = '\t' then ['\\', 't']
  else if c = '\n' then ['\\', 'n']
  else if c = '\x0c' then ['\\', 'f']
  else if c = '\r' then ['\\', 'r']
  else if c.toNat < 32 then
    ['\\', 'u', '0', '0', hexDigit (c.toNat / 16), hexDigit (c.toNat % 16)]
  else [c]

/-- A text between quotes. -/
def encode (s : List Char) : List Char := '"' :: (s.flatMap encodeChar ++ ['"'])

/-! ## Reading -/

/-- The character that a letter stands for after a backslash. -/
def letter? (c : Char) : Option Char :=
  match c with
  | '"' => some '"'
  | '\\' => some '\\'
  | '/' => some '/'
  | 'b' => some '\x08'
  | 'f' => some '\x0c'
  | 'n' => some '\n'
  | 'r' => some '\r'
  | 't' => some '\t'
  | _ => none

/-- The first character of quoted text and what follows it. -/
def next? : List Char → Option (Char × List Char)
  | '\\' :: 'u' :: a :: b :: c :: d :: rest =>
    match hexNumber? [a, b, c, d] with
    | none => none
    | some high =>
      if high < 0xD800 || 0xE000 ≤ high then some (Char.ofNat high, rest)
      else if 0xDC00 ≤ high then none
      else
        match rest with
        | '\\' :: 'u' :: a :: b :: c :: d :: rest =>
          match hexNumber? [a, b, c, d] with
          | none => none
          | some low =>
            if 0xDC00 ≤ low && low < 0xE000 then
              some (Char.ofNat (0x10000 + (high - 0xD800) * 0x400 + (low - 0xDC00)), rest)
            else none
        | _ => none
  | '\\' :: c :: rest => (letter? c).map fun x => (x, rest)
  | c :: rest => if c = '\\' || c.toNat < 32 then none else some (c, rest)
  | [] => none

/-- Reading a character leaves less to read. -/
theorem length_lt_of_next? {s rest : List Char} {c : Char} (h : next? s = some (c, rest)) :
    rest.length < s.length := by
  unfold next? at h
  split at h
  · split at h
    · simp at h
    · split at h
      · simp only [Option.some.injEq, Prod.mk.injEq] at h
        obtain ⟨_, rfl⟩ := h
        simp only [List.length_cons]
        omega
      · split at h
        · simp at h
        · split at h
          · split at h
            · simp at h
            · split at h
              · simp only [Option.some.injEq, Prod.mk.injEq] at h
                obtain ⟨_, rfl⟩ := h
                simp only [List.length_cons]
                omega
              · simp at h
          · simp at h
  · simp only [Option.map_eq_some_iff, Prod.mk.injEq] at h
    obtain ⟨_, _, _, h⟩ := h
    subst h
    simp only [List.length_cons]
    omega
  · split at h
    · simp at h
    · simp only [Option.some.injEq, Prod.mk.injEq] at h
      obtain ⟨_, rfl⟩ := h
      simp only [List.length_cons]
      omega
  · simp at h

/-- The text up to the closing quote and what follows the quote. -/
def read? : List Char → Option (List Char × List Char)
  | [] => none
  | '"' :: rest => some ([], rest)
  | c :: rest =>
    match _ : next? (c :: rest) with
    | none => none
    | some (d, rest) => (read? rest).map fun (text, after) => (d :: text, after)
  termination_by s => s.length
  decreasing_by exact length_lt_of_next? ‹_›

/-- Quoted text is followed by less than it started with. -/
theorem length_lt_of_read? {s text after : List Char} (h : read? s = some (text, after)) :
    after.length < s.length := by
  fun_induction read? s generalizing text after with
  | case1 => simp at h
  | case2 rest =>
    simp only [Option.some.injEq, Prod.mk.injEq] at h
    simp [← h.2]
  | case3 => simp at h
  | case4 _ _ _ _ _ hn ih =>
    simp only [Option.map_eq_some_iff, Prod.mk.injEq, Prod.exists] at h
    obtain ⟨t, a, hr, _, rfl⟩ := h
    have := ih hr
    have := length_lt_of_next? hn
    omega

end Quoted

end RestModel
