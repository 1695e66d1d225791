import RestModel.Json.Quoted
import RestModel.Json.Number

/-!
# JSON tokens — a text cut into brackets, marks and scalars

White space between tokens is the space, the tab and the two line breaks.
A number is the longest run of characters that can stand in one, and must
be one as a whole. Where two scalars touch, the text has two tokens, which
no arrangement of brackets and marks accepts.
-/

namespace RestModel

namespace Json

/-- A token of JSON text. -/
inductive Token where
  | openObject
  | closeObject
  | openArray
  | closeArray
  | comma
  | colon
  | null
  | bool (value : Bool)
  | num (value : Number)
  | str (text : String)
  deriving Inhabited

/-- White space between tokens. -/
def isGap (c : Char) : Bool := c == ' ' || c == '\n' || c == '\t' || c == '\r'

/-- A character that can stand in a number. -/
def isNumeral (c : Char) : Bool :=
  c.isDigit || c == '-' || c == '+' || c == '.' || c == 'e' || c == 'E'

/-- The first token of a text that does not begin with white space, and what
follows it. -/
def Token.next? : List Char → Option (Token × List Char)
  | '{' :: rest => some (.openObject, rest)
  | '}' :: rest => some (.closeObject, rest)
  | '[' :: rest => some (.openArray, rest)
  | ']' :: rest => some (.closeArray, rest)
  | ',' :: rest => some (.comma, rest)
  | ':' :: rest => some (.colon, rest)
  | '"' :: rest => (Quoted.read? rest).map fun (text, after) => (.str (String.ofList text), after)
  | 'n' :: 'u' :: 'l' :: 'l' :: rest => some (.null, rest)
  | 't' :: 'r' :: 'u' :: 'e' :: rest => some (.bool true, rest)
  | 'f' :: 'a' :: 'l' :: 's' :: 'e' :: rest => some (.bool false, rest)
  | c :: rest =>
    if c.isDigit || c = '-' then
      (Number.read? (c :: rest.takeWhile isNumeral)).map fun n =>
        (.num n, rest.dropWhile isNumeral)
    else none
  | [] => none

/-- A token takes at least one character. -/
theorem Token.length_lt_of_next? {s rest : List Char} {t : Token}
    (h : Token.next? s = some (t, rest)) : rest.length < s.length := by
  unfold Token.next? at h
  split at h
  case h_7 =>
    simp only [Option.map_eq_some_iff, Prod.mk.injEq, Prod.exists] at h
    obtain ⟨_, _, hr, _, rfl⟩ := h
    exact Nat.lt_succ_of_lt (Quoted.length_lt_of_read? hr)
  case h_11 =>
    split at h
    · simp only [Option.map_eq_some_iff, Prod.mk.injEq] at h
      obtain ⟨_, _, _, rfl⟩ := h
      exact Nat.lt_succ_of_le (List.dropWhile_suffix _).length_le
    · simp at h
  case h_12 => simp at h
  all_goals
    simp only [Option.some.injEq, Prod.mk.injEq] at h
    obtain ⟨_, rfl⟩ := h
    simp only [List.length_cons]
    omega

/-- The tokens of a text. -/
def tokens? : List Char → Option (List Token)
  | [] => some []
  | c :: rest =>
    if isGap c then tokens? rest
    else
      match _ : Token.next? (c :: rest) with
      | none => none
      | some (token, after) =>
        (tokens? after).map (token :: ·)
  termination_by s => s.length
  decreasing_by
    · simp only [List.length_cons]
      omega
    · exact Token.length_lt_of_next? ‹_›

end Json

end RestModel
