import RestModel.Hexadecimal

/-!
# TOML texts — quoted on one line or over several

A basic text knows escapes, a literal one takes everything as it stands.
Either may be written between single quotes of its kind, on one line, or
between triple ones, over several. Line breaks inside are single newlines
however they are written.
-/

namespace RestModel

namespace Toml

/-- A character that may stand bare in a text or a comment. -/
def isPrintable (c : Char) : Bool := c = '\t' || (32 ≤ c.toNat && c.toNat ≠ 127)

/-- The character of a one-letter escape. -/
def letterEscape? (c : Char) : Option Char :=
  match c with
  | 'b' => some '\x08'
  | 't' => some '\t'
  | 'n' => some '\n'
  | 'f' => some '\x0c'
  | 'r' => some '\r'
  | '"' => some '"'
  | '\\' => some '\\'
  | _ => none

/-- Text and what follows it. -/
abbrev Cut := Option (List Char × List Char)

/-- A character in front of a text. -/
def Cut.cons (c : Char) (cut : Cut) : Cut := cut.map fun (text, after) => (c :: text, after)

/-- A possible character in front of a text. -/
def Cut.cons? (c : Option Char) (cut : Cut) : Cut := c.bind (Cut.cons · cut)

/-- A basic text on one line, after its opening quote. -/
def basic? : List Char → Cut
  | '"' :: rest => some ([], rest)
  | '\\' :: 'u' :: a :: b :: c :: d :: rest =>
    Cut.cons? (Quoted.hexChar? [a, b, c, d]) (basic? rest)
  | '\\' :: 'U' :: a :: b :: c :: d :: e :: f :: g :: h :: rest =>
    Cut.cons? (Quoted.hexChar? [a, b, c, d, e, f, g, h]) (basic? rest)
  | '\\' :: c :: rest => Cut.cons? (letterEscape? c) (basic? rest)
  | c :: rest => if isPrintable c && c ≠ '\\' then Cut.cons c (basic? rest) else none
  | [] => none

/-- A literal text on one line, after its opening quote. -/
def literal? : List Char → Cut
  | '\'' :: rest => some ([], rest)
  | c :: rest => if isPrintable c then Cut.cons c (literal? rest) else none
  | [] => none

/-- Where a basic text over several lines stands. -/
inductive Folding where
  /-- In the text. -/
  | inText
  /-- After a backslash that ends its line, before the line break. -/
  | beforeBreak
  /-- After that line break, before the next visible character. -/
  | afterBreak

/-- Skipping comes before reading on at the same place. -/
def Folding.rank : Folding → Nat
  | .inText => 0
  | _ => 1

/-- A basic text over several lines, after its opening quotes. Up to two
quotes may stand at its very end. -/
def basicLines? : Folding → List Char → Cut
  | .inText, '"' :: '"' :: '"' :: '"' :: '"' :: rest => some (['"', '"'], rest)
  | .inText, '"' :: '"' :: '"' :: '"' :: rest => some (['"'], rest)
  | .inText, '"' :: '"' :: '"' :: rest => some ([], rest)
  | .inText, '\\' :: 'u' :: a :: b :: c :: d :: rest =>
    Cut.cons? (Quoted.hexChar? [a, b, c, d]) (basicLines? .inText rest)
  | .inText, '\\' :: 'U' :: a :: b :: c :: d :: e :: f :: g :: h :: rest =>
    Cut.cons? (Quoted.hexChar? [a, b, c, d, e, f, g, h]) (basicLines? .inText rest)
  | .inText, '\\' :: c :: rest =>
    if c = ' ' || c = '\t' || c = '\n' || c = '\r' then basicLines? .beforeBreak (c :: rest)
    else Cut.cons? (letterEscape? c) (basicLines? .inText rest)
  | .inText, '\r' :: '\n' :: rest => Cut.cons '\n' (basicLines? .inText rest)
  | .inText, c :: rest =>
    if c = '\n' || (isPrintable c && c ≠ '\\') then Cut.cons c (basicLines? .inText rest) else none
  | .beforeBreak, '\r' :: '\n' :: rest => basicLines? .afterBreak rest
  | .beforeBreak, c :: rest =>
    if c = '\n' then basicLines? .afterBreak rest
    else if c = ' ' || c = '\t' then basicLines? .beforeBreak rest
    else none
  | .afterBreak, '\r' :: '\n' :: rest => basicLines? .afterBreak rest
  | .afterBreak, c :: rest =>
    if c = ' ' || c = '\t' || c = '\n' then basicLines? .afterBreak rest
    else basicLines? .inText (c :: rest)
  | _, [] => none
  termination_by folding s => 2 * s.length + folding.rank
  decreasing_by all_goals simp +arith [Folding.rank]

/-- A literal text over several lines, after its opening quotes. -/
def literalLines? : List Char → Cut
  | '\'' :: '\'' :: '\'' :: '\'' :: '\'' :: rest => some (['\'', '\''], rest)
  | '\'' :: '\'' :: '\'' :: '\'' :: rest => some (['\''], rest)
  | '\'' :: '\'' :: '\'' :: rest => some ([], rest)
  | '\r' :: '\n' :: rest => Cut.cons '\n' (literalLines? rest)
  | c :: rest => if c = '\n' || isPrintable c then Cut.cons c (literalLines? rest) else none
  | [] => none

/-- A text without the line break that may follow its opening quotes. -/
def skipBreak : List Char → List Char
  | '\n' :: rest => rest
  | '\r' :: '\n' :: rest => rest
  | text => text

/-- A text of any kind, if one begins here. -/
def text? : List Char → Cut
  | '"' :: '"' :: '"' :: rest => basicLines? .inText (skipBreak rest)
  | '\'' :: '\'' :: '\'' :: rest => literalLines? (skipBreak rest)
  | '"' :: rest => basic? rest
  | '\'' :: rest => literal? rest
  | _ => none

end Toml

end RestModel
