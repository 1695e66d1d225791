import RestModel.Hexadecimal
import RestModel.Yaml.Character

/-!
# YAML scalars — text with its line breaks folded

Plain and quoted text may go over several lines. Blanks around a line break
are dropped, a single break becomes a space, and of several the first is
dropped. In a block every line stands for itself, and folding joins only
lines that are not indented further.
-/

namespace RestModel

namespace Yaml

/-! ## Gaps -/

/-- Blanks and breaks between two visible characters of a scalar. The parts
are kept latest first. -/
structure Gap where
  blanks : List Char
  /-- The gap contains a line break. -/
  broken : Bool
  /-- The first break, unless it was escaped. -/
  first : Option Char
  /-- All further breaks. -/
  more : List Char

/-- No gap at all. -/
def Gap.none : Gap := ⟨[], false, Option.none, []⟩

/-- A break that was escaped. -/
def Gap.escaped : Gap := ⟨[], true, Option.none, []⟩

def Gap.isNone (gap : Gap) : Bool := gap.blanks.isEmpty && !gap.broken

/-- A gap with one more blank. After a break, blanks do not matter. -/
def Gap.blank (gap : Gap) (c : Char) : Gap :=
  if gap.broken then gap else { gap with blanks := c :: gap.blanks }

/-- A gap with one more break. -/
def Gap.break (gap : Gap) (c : Char) : Gap :=
  if gap.broken then { gap with more := c :: gap.more } else ⟨[], true, some c, []⟩

/-- What a gap stands for, latest first. -/
def Gap.folded (gap : Gap) : List Char :=
  if gap.broken then
    match gap.first with
    | some '\n' => if gap.more.isEmpty then [' '] else gap.more
    | some c => gap.more ++ [c]
    | Option.none => gap.more
  else gap.blanks

/-! ## Plain text -/

/-- The rest of a plain scalar between brackets or not, in a block with the
given indentation. `text` is what has been read, latest first. The result is
the text, whether a line break follows it, and what follows both. -/
def plain? (inFlow : Bool) (indent : Int) (text : List Char) (gap : Gap) (p : Place) :
    List Char → Option (List Char × Bool × Place × List Char)
  | [] => some (text.reverse, gap.broken, p, [])
  | '\r' :: '\n' :: rest => plain? inFlow indent text (gap.break '\n') (p.newLine 2) rest
  | c :: rest =>
    if isBreak c then plain? inFlow indent text (gap.break (breakText c)) (p.newLine 1) rest
    else if isBlank c then
      if gap.broken && p.column < indent && c = '\t' then none
      else plain? inFlow indent text (gap.blank c) (p.advance 1) rest
    else
      let stop := some (text.reverse, gap.broken, p, c :: rest)
      if !gap.isNone &&
          ((!inFlow && p.column < indent) || atDocumentMarker p (c :: rest) || c = '#') then stop
      else if inFlow && c = ':' && rest.head?.any fun x => isFlowMark x || x = '?' then none
      else if (c = ':' && atGap rest) || (inFlow && isFlowMark c) then stop
      else plain? inFlow indent (c :: (gap.folded ++ text)) Gap.none (p.advance 1) rest

/-! ## Quoted text -/

/-- The rest of a scalar in single quotes. A quote in the text is written twice. -/
def single? (text : List Char) (gap : Gap) (p : Place) :
    List Char → Option (List Char × Place × List Char)
  | [] => none
  | '\r' :: '\n' :: rest => single? text (gap.break '\n') (p.newLine 2) rest
  | '\'' :: '\'' :: rest => single? ('\'' :: (gap.folded ++ text)) Gap.none (p.advance 2) rest
  | c :: rest =>
    if isBreak c then single? text (gap.break (breakText c)) (p.newLine 1) rest
    else if isBlank c then single? text (gap.blank c) (p.advance 1) rest
    else if !gap.isNone && atDocumentMarker p (c :: rest) then none
    else if c = '\'' then some ((gap.folded ++ text).reverse, p.advance 1, rest)
    else single? (c :: (gap.folded ++ text)) Gap.none (p.advance 1) rest

/-- The character of a one-letter escape. -/
def letterEscape? (c : Char) : Option Char :=
  match c with
  | '0' => some '\x00'
  | 'a' => some '\x07'
  | 'b' => some '\x08'
  | 't' | '\t' => some '\t'
  | 'n' => some '\n'
  | 'v' => some '\x0b'
  | 'f' => some '\x0c'
  | 'r' => some '\r'
  | 'e' => some '\x1b'
  | ' ' => some ' '
  | '"' => some '"'
  | '/' => some '/'
  | '\\' => some '\\'
  | 'N' => some '\x85'
  | '_' => some '\xa0'
  | 'L' => some '\u2028'
  | 'P' => some '\u2029'
  | _ => none

/-- The rest of a scalar in double quotes. A backslash before a line break
takes the break, and the blanks after it, out of the text. -/
def double? (text : List Char) (gap : Gap) (p : Place) :
    List Char → Option (List Char × Place × List Char)
  | [] => none
  | '\r' :: '\n' :: rest => double? text (gap.break '\n') (p.newLine 2) rest
  | c :: rest =>
    if isBreak c then double? text (gap.break (breakText c)) (p.newLine 1) rest
    else if isBlank c then double? text (gap.blank c) (p.advance 1) rest
    else if !gap.isNone && atDocumentMarker p (c :: rest) then none
    else
      let text := gap.folded ++ text
      if c = '"' then some (text.reverse, p.advance 1, rest)
      else if c = '\\' then
        match rest with
        | '\r' :: '\n' :: rest => double? text Gap.escaped (p.newLine 3) rest
        | 'x' :: a :: b :: rest =>
          (Quoted.hexChar? [a, b]).bind fun x => double? (x :: text) Gap.none (p.advance 4) rest
        | 'u' :: a :: b :: c :: d :: rest =>
          (Quoted.hexChar? [a, b, c, d]).bind fun x =>
            double? (x :: text) Gap.none (p.advance 6) rest
        | 'U' :: a :: b :: c :: d :: e :: f :: g :: h :: rest =>
          (Quoted.hexChar? [a, b, c, d, e, f, g, h]).bind fun x =>
            double? (x :: text) Gap.none (p.advance 10) rest
        | x :: rest =>
          if isBreak x then double? text Gap.escaped (p.newLine 2) rest
          else (letterEscape? x).bind fun x => double? (x :: text) Gap.none (p.advance 2) rest
        | [] => none
      else double? (c :: text) Gap.none (p.advance 1) rest

/-! ## Blocks -/

/-- What happens to the breaks at the end of a block. -/
inductive Chomping where
  /-- All are dropped. -/
  | strip
  /-- The last line keeps its own. -/
  | clip
  /-- All are kept. -/
  | keep
  deriving DecidableEq, Repr

/-- Skips indentation and empty lines. `indent` is the block's indentation,
zero if it is still to be found out, and `widest` the widest one met. The
result also has the breaks that were skipped, latest first. -/
def skipIndent? (indent widest : Nat) (breaks : List Char) (p : Place) :
    List Char → Option (Nat × List Char × Place × List Char)
  | [] => some (max widest p.column, breaks, p, [])
  | '\r' :: '\n' :: rest =>
    skipIndent? indent (max widest p.column) ('\n' :: breaks) (p.newLine 2) rest
  | c :: rest =>
    let inside := indent = 0 || p.column < indent
    if inside && c = ' ' then skipIndent? indent widest breaks (p.advance 1) rest
    else if inside && c = '\t' then none
    else if isBreak c then
      skipIndent? indent (max widest p.column) (breakText c :: breaks) (p.newLine 1) rest
    else some (max widest p.column, breaks, p, c :: rest)

/-- The break at the end of a line, if the text does not end there. -/
def takeBreak (p : Place) : List Char → List Char × Place × List Char
  | '\r' :: '\n' :: rest => (['\n'], p.newLine 2, rest)
  | c :: rest => if isBreak c then ([breakText c], p.newLine 1, rest) else ([], p, c :: rest)
  | [] => ([], p, [])

/-- The lines of a block. `first` is the break of the line before and `more`
the empty lines after it, and `moreIndented` says whether that line began
with a blank. All but the remaining text is kept latest first. -/
def blockLines? (fuel : Nat) (folded : Bool) (indent : Nat) (text first more : List Char)
    (moreIndented : Bool) (p : Place) (s : List Char) :
    Option (List Char × List Char × List Char × Place × List Char) :=
  match fuel, s with
  | fuel + 1, c :: _ =>
    if p.column = indent then
      let head :=
        if folded && first == ['\n'] && !moreIndented && !isBlank c then
          if more.isEmpty then [' '] else more
        else more ++ first
      let line := s.takeWhile (!isBreak ·)
      let (first, p, s) := takeBreak (p.advance line.length) (s.dropWhile (!isBreak ·))
      (skipIndent? indent 0 [] p s).bind fun (_, more, p, s) =>
        blockLines? fuel folded indent (line.reverse ++ head ++ text) first more (isBlank c) p s
    else some (text, first, more, p, s)
  | _, _ => some (text, first, more, p, s)

/-- The indicators after the bar of a block: how to chomp it, and by how much
it is indented if that is said. -/
def blockHeader? (p : Place) (s : List Char) : Option (Chomping × Nat × Place × List Char) :=
  let sign? (c : Char) : Option Chomping :=
    if c = '+' then some .keep else if c = '-' then some .strip else none
  match s with
  | a :: b :: rest =>
    match sign? a, sign? b with
    | some chomping, _ =>
      if b = '0' then none
      else if b.isDigit then some (chomping, b.toNat - 48, p.advance 2, rest)
      else some (chomping, 0, p.advance 1, b :: rest)
    | none, sign =>
      if a = '0' then none
      else if a.isDigit then
        match sign with
        | some chomping => some (chomping, a.toNat - 48, p.advance 2, rest)
        | none => some (.clip, a.toNat - 48, p.advance 1, b :: rest)
      else some (.clip, 0, p, s)
  | [a] =>
    match sign? a with
    | some chomping => some (chomping, 0, p.advance 1, [])
    | none =>
      if a = '0' then none
      else if a.isDigit then some (.clip, a.toNat - 48, p.advance 1, [])
      else some (.clip, 0, p, s)
  | [] => some (.clip, 0, p, [])

/-- A block, after its bar. `outer` is the indentation of what it stands in. -/
def block? (folded : Bool) (outer : Int) (p : Place) (s : List Char) :
    Option (List Char × Place × List Char) := do
  let (chomping, increment, p, s) ← blockHeader? p s
  let (p, s) ← lineEnd? p s
  let said := if increment = 0 then 0 else outer.toNat + increment
  let (widest, more, p, s) ← skipIndent? said 0 [] p s
  let indent := if said = 0 then max widest (max (outer + 1).toNat 1) else said
  let (text, first, more, p, s) ← blockLines? s.length folded indent [] [] more false p s
  let kept :=
    match chomping with
    | .strip => text
    | .clip => first ++ text
    | .keep => more ++ first ++ text
  return (kept.reverse, p, s)

end Yaml

end RestModel
