/-!
# YAML characters — places in a text and the classes that indicators need

A text is read from a place: how many characters stand before it, on which
line it is and in which column, all counted from zero. A line ends at a
carriage return, a newline, both together, or one of the three breaks outside
ASCII; all but the last two of these count as a newline.
-/

namespace RestModel

namespace Yaml

/-- A place in a text. -/
structure Place where
  index : Nat
  line : Nat
  column : Nat
  deriving DecidableEq, Repr, Inhabited

/-- So many characters further on the same line. -/
def Place.advance (p : Place) (count : Nat) : Place :=
  { p with index := p.index + count, column := p.column + count }

/-- At the beginning of the next line, after a break of so many characters. -/
def Place.newLine (p : Place) (count : Nat) : Place := ⟨p.index + count, p.line + 1, 0⟩

/-- The characters that a text may contain at all. -/
def isAllowed (c : Char) : Bool :=
  let n := c.toNat
  n = 9 || n = 10 || n = 13 || (32 ≤ n && n ≤ 126) || n = 0x85 || (0xA0 ≤ n && n ≤ 0xD7FF) ||
    (0xE000 ≤ n && n ≤ 0xFFFD) || 0x10000 ≤ n

/-- A space or a tab. -/
def isBlank (c : Char) : Bool := c = ' ' || c = '\t'

/-- A character that ends a line. -/
def isBreak (c : Char) : Bool :=
  c = '\r' || c = '\n' || c = '\x85' || c = '\u2028' || c = '\u2029'

/-- What a line break is read as. -/
def breakText (c : Char) : Char := if c = '\u2028' || c = '\u2029' then c else '\n'

/-- A text begins with a blank or a line break, or there is no more of it. -/
def atGap : List Char → Bool
  | [] => true
  | c :: _ => isBlank c || isBreak c

/-- A text begins with three times the same character and a gap. -/
def atMarker (c : Char) : List Char → Bool
  | x :: y :: z :: rest => x = c && y = c && z = c && atGap rest
  | _ => false

/-- At this place begins or ends a document. -/
def atDocumentMarker (p : Place) (s : List Char) : Bool :=
  p.column = 0 && (atMarker '-' s || atMarker '.' s)

/-- A character of names. -/
def isWord (c : Char) : Bool := c.isAlphanum || c = '_' || c = '-'

/-- A bracket or the comma, which end text between brackets. -/
def isFlowMark (c : Char) : Bool := c = ',' || c = '[' || c = ']' || c = '{' || c = '}'

/-- The rest of the line that a comment, or nothing, takes up: what follows
it, or nothing if something else stands there. -/
def lineEnd? (p : Place) (s : List Char) : Option (Place × List Char) :=
  let blanks := s.takeWhile isBlank
  let s := s.dropWhile isBlank
  let p := p.advance blanks.length
  let (p, s) :=
    match s with
    | '#' :: _ =>
      let comment := s.takeWhile (!isBreak ·)
      (p.advance comment.length, s.dropWhile (!isBreak ·))
    | _ => (p, s)
  match s with
  | [] => some (p, [])
  | '\r' :: '\n' :: rest => some (p.newLine 2, rest)
  | c :: rest => if isBreak c then some (p.newLine 1, rest) else none

end Yaml

end RestModel
