/-!
# Hexadecimal — digits, numbers and the characters they stand for

Quoted text of any format may spell a character in hexadecimal digits, in
capitals or not. In TOML and YAML they are the digits of its code point, and
spell nothing if no character has it (`Quoted.hexChar?`). In JSON they may be
half a pair of surrogates, so its reader goes by their number alone
(`Quoted.hexNumber?`). Written digits are lowercase, and each is read back as
the number that it was written for (`Quoted.hexValue?_hexDigit`).
-/

namespace RestModel

namespace Quoted

/-- A digit below sixteen, in lowercase. -/
def hexDigit (n : Nat) : Char :=
  if n < 10 then Char.ofNat (48 + n) else Char.ofNat (87 + n)

/-- The value of a hexadecimal digit in either case. -/
def hexValue? (c : Char) : Option Nat :=
  let n := c.toNat
  if 48 ≤ n && n ≤ 57 then some (n - 48)
  else if 97 ≤ n && n ≤ 102 then some (n - 87)
  else if 65 ≤ n && n ≤ 70 then some (n - 55)
  else none

/-- The value of a sequence of hexadecimal digits. -/
def hexNumber? (digits : List Char) : Option Nat :=
  digits.foldl (fun value c => do return (← value) * 16 + (← hexValue? c)) (some 0)

/-- The character with the code point that some digits spell. -/
def hexChar? (digits : List Char) : Option Char :=
  (hexNumber? digits).bind fun n =>
    if h : n.isValidChar then some (Char.ofNatAux n h) else none

/-- A hexadecimal digit has the value that it was written for. -/
theorem hexValue?_hexDigit : ∀ n < 16, hexValue? (hexDigit n) = some n := by
  decide

end Quoted

end RestModel
