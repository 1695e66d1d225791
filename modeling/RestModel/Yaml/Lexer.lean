import RestModel.Yaml.Scalar
import RestModel.Yaml.Tag

/-!
# YAML lexing — layout into tokens

The lexer keeps the columns of the open block collections, the brackets that
are open, and for each level the place where a key may have begun. A colon
shows that one did: then its token, and the beginning of its mapping, are put
in front of it. A key has to end on its line and within 1024 characters.
-/

namespace RestModel

namespace Yaml

/-- Where a key may have begun. -/
structure Candidate where
  /-- The number of tokens before it. -/
  before : Nat
  place : Place
  /-- Nothing but a key may stand there. -/
  required : Bool
  deriving Repr

/-- A key that began there could no longer end at the given place. -/
def Candidate.isStale (k : Candidate) (p : Place) : Bool :=
  k.place.line < p.line || k.place.index + 1024 < p.index

/-- The state between two tokens. -/
structure Lexer where
  place : Place
  rest : List Char
  /-- The tokens so far, latest first, and their number. -/
  tokens : List Token
  count : Nat
  /-- The column of the innermost block collection, and those around it. -/
  indent : Int
  outer : List Int
  /-- Where a key may have begun, for each open bracket and outside of all. -/
  keys : List (Option Candidate)
  /-- A key may begin here. -/
  keyAllowed : Bool

namespace Lexer

/-- Some bracket is open. -/
def inFlow (l : Lexer) : Bool := 1 < l.keys.length

/-- Adds a token at the end. -/
def push (l : Lexer) (token : Token) : Lexer :=
  { l with tokens := token :: l.tokens, count := l.count + 1 }

/-- Adds a token after the given number of tokens. -/
def insert (l : Lexer) (before : Nat) (token : Token) : Lexer :=
  let later := l.count - before
  { l with
    tokens := l.tokens.take later ++ token :: l.tokens.drop later
    count := l.count + 1 }

/-- Moves over some characters of the line. -/
def skip (l : Lexer) (count : Nat) : Lexer :=
  { l with place := l.place.advance count, rest := l.rest.drop count }

/-! ## Keys -/

/-- Gives up the keys that could no longer end. -/
def dropStale? (l : Lexer) : Option Lexer := do
  let keys ← l.keys.mapM fun key =>
    match key with
    | none => some none
    | some k => if k.isStale l.place then (if k.required then none else some none) else some key
  return { l with keys := keys }

/-- Gives up the key of the current level. -/
def dropKey? (l : Lexer) : Option Lexer :=
  match l.keys with
  | some k :: below => if k.required then none else some { l with keys := none :: below }
  | _ => some l

/-- Notes that a key may begin here, if one may. -/
def noteKey? (l : Lexer) : Option Lexer :=
  if l.keyAllowed then do
    let required := !l.inFlow && l.indent == (l.place.column : Int)
    let l ← l.dropKey?
    return { l with keys := some ⟨l.count, l.place, required⟩ :: l.keys.tail }
  else some l

/-! ## Indentation -/

/-- Ends the block collections that are indented beyond a column. -/
def unroll (l : Lexer) (column : Int) : Lexer :=
  if l.inFlow then l else go l l.outer
where
  go (l : Lexer) : List Int → Lexer
    | [] => l
    | previous :: outer =>
      if column < l.indent then
        go { l.push .blockEnd with indent := previous, outer := outer } outer
      else l

/-- Begins a block collection in a column beyond the current one. -/
def roll (l : Lexer) (column before : Nat) (token : Token) : Lexer :=
  if !l.inFlow && l.indent < column then
    { l.insert before token with indent := column, outer := l.indent :: l.outer }
  else l

/-! ## Tokens -/

/-- Skips white space and comments. -/
def skipGap (inFlow keyAllowed comment : Bool) (p : Place) :
    List Char → Place × List Char × Bool
  | [] => (p, [], keyAllowed)
  | '\r' :: '\n' :: rest => skipGap inFlow (keyAllowed || !inFlow) false (p.newLine 2) rest
  | c :: rest =>
    if isBreak c then skipGap inFlow (keyAllowed || !inFlow) false (p.newLine 1) rest
    else if comment || c = '#' then skipGap inFlow keyAllowed true (p.advance 1) rest
    else if c = ' ' || (c = '\t' && (inFlow || !keyAllowed)) || (c = '\ufeff' && p.index = 0) then
      skipGap inFlow keyAllowed false (p.advance 1) rest
    else (p, c :: rest, keyAllowed)

/-- A token of one or three characters before which no key is open. -/
def mark? (l : Lexer) (token : Token) (size : Nat) (keyAllowed : Bool) : Option Lexer := do
  let l ← l.dropKey?
  return { (l.skip size).push token with keyAllowed := keyAllowed }

/-- An opening bracket, which may begin a key. -/
def open? (l : Lexer) (token : Token) : Option Lexer := do
  let l ← l.noteKey?
  return { (l.skip 1).push token with keys := none :: l.keys, keyAllowed := true }

/-- A closing bracket. -/
def close? (l : Lexer) (token : Token) : Option Lexer := do
  let l ← l.dropKey?
  let keys := if l.inFlow then l.keys.tail else l.keys
  return { (l.skip 1).push token with keys := keys, keyAllowed := false }

/-- A dash, a question mark or a colon that begins an item, a key or a value
in its own column of a block. -/
def begin? (l : Lexer) (collection token : Token) : Option Lexer :=
  if l.inFlow then l.mark? token 1 false
  else if l.keyAllowed then
    (l.roll l.place.column l.count collection).mark? token 1 true
  else none

/-- A colon: after a key, or where a value may begin. -/
def value? (l : Lexer) : Option Lexer :=
  match l.keys with
  | some k :: below =>
    let l := (l.insert k.before .key).roll k.place.column k.before .blockMapping
    some { (l.skip 1).push .value with keys := none :: below, keyAllowed := false }
  | _ =>
    if l.inFlow then some { (l.skip 1).push .value with keyAllowed := false }
    else if l.keyAllowed then
      let l := l.roll l.place.column l.count .blockMapping
      some { (l.skip 1).push .value with keyAllowed := true }
    else none

/-- A token that may begin a key, given with what follows it. -/
def content? (l : Lexer) (read : Lexer → Option (Token × Bool × Place × List Char)) :
    Option Lexer := do
  let l ← l.noteKey?
  let (token, keyAllowed, place, rest) ← read l
  return { l.push token with place := place, rest := rest, keyAllowed := keyAllowed }

/-- The indicators that may follow a name at once. -/
def endsName (c : Char) : Bool :=
  ['?', ':', ',', ']', '}', '%', '@', '\x60'].contains c

/-- A name after its mark. -/
def name? (make : String → Token) (l : Lexer) : Option (Token × Bool × Place × List Char) :=
  let name := l.rest.tail.takeWhile isWord
  let rest := l.rest.tail.dropWhile isWord
  if !name.isEmpty && (atGap rest || rest.head?.any endsName) then
    some (make (String.ofList name), false, l.place.advance (name.length + 1), rest)
  else none

/-- A scalar as a token, after which no key may begin. -/
def quoted (read : Option (List Char × Place × List Char)) :
    Option (Token × Bool × Place × List Char) :=
  read.map fun (text, place, rest) => (.scalar false (String.ofList text), false, place, rest)

/-- The indicators, with which no plain scalar begins on their own. -/
def isIndicator (c : Char) : Bool :=
  ['-', '?', ':', ',', '[', ']', '{', '}', '#', '&', '*', '!', '|', '>', '\'', '"', '%', '@',
    '\x60'].contains c

/-- A plain scalar may begin with any character but an indicator, and with
some indicators if no blank follows. -/
def beginsPlain (inFlow : Bool) (c : Char) (rest : List Char) : Bool :=
  !(isBlank c || isIndicator c) ||
    (c = '-' && !rest.head?.any isBlank) ||
    (!inFlow && (c = '?' || c = ':') && !atGap rest)

/-- Reads the next token, with the tokens that the layout puts before it. -/
def next? (l : Lexer) (c : Char) (rest : List Char) : Option Lexer :=
  let p := l.place
  let gap := atGap rest
  if p.column = 0 && c = '%' then do
    let l ← (l.unroll (-1)).dropKey?
    let (token, after) ← directive? rest
    let (place, rest) ← lineEnd? (p.advance (l.rest.length - after.length)) after
    return { l.push token with place := place, rest := rest, keyAllowed := false }
  else if p.column = 0 && atMarker '-' l.rest then (l.unroll (-1)).mark? .documentStart 3 false
  else if p.column = 0 && atMarker '.' l.rest then (l.unroll (-1)).mark? .documentEnd 3 false
  else if c = '[' then l.open? .flowSequence
  else if c = '{' then l.open? .flowMapping
  else if c = ']' then l.close? .flowSequenceEnd
  else if c = '}' then l.close? .flowMappingEnd
  else if c = ',' then l.mark? .comma 1 true
  else if c = '-' && gap then
    if l.inFlow then l.mark? .entry 1 true else l.begin? .blockSequence .entry
  else if c = '?' && (l.inFlow || gap) then l.begin? .blockMapping .key
  else if c = ':' && (l.inFlow || gap) then l.value?
  else if c = '*' then l.content? (name? .alias)
  else if c = '&' then l.content? (name? .anchor)
  else if c = '!' then
    l.content? fun l => (tag? l.inFlow l.rest).map fun (tag, after) =>
      (.tag tag, false, p.advance (l.rest.length - after.length), after)
  else if (c = '|' || c = '>') && !l.inFlow then do
    let l ← l.dropKey?
    let (text, place, rest) ← block? (c = '>') l.indent (p.advance 1) rest
    return { l.push (.scalar false (String.ofList text)) with
      place := place, rest := rest, keyAllowed := true }
  else if c = '\'' then l.content? fun _ => quoted (single? [] Gap.none (p.advance 1) rest)
  else if c = '"' then l.content? fun _ => quoted (double? [] Gap.none (p.advance 1) rest)
  else if beginsPlain l.inFlow c rest then
    l.content? fun l =>
      (plain? l.inFlow (l.indent + 1) [] Gap.none p l.rest).map fun (text, broken, place, rest) =>
        (.scalar true (String.ofList text), broken, place, rest)
  else none

/-- All tokens from here to the end of the text. -/
def run? (fuel : Nat) (l : Lexer) : Option (List Token) := do
  let (place, rest, keyAllowed) := skipGap l.inFlow l.keyAllowed false l.place l.rest
  let l ← { l with place := place, rest := rest, keyAllowed := keyAllowed }.dropStale?
  let l := l.unroll l.place.column
  match fuel, l.rest with
  | _, [] => do
    let l ← (l.unroll (-1)).dropKey?
    return l.tokens.reverse
  | fuel + 1, c :: rest => run? fuel (← l.next? c rest)
  | 0, _ => none

end Lexer

/-- The tokens of a text. -/
def tokens? (text : String) : Option (List Token) :=
  let s := text.toList
  if s.all isAllowed then Lexer.run? (s.length + 1) ⟨⟨0, 0, 0⟩, s, [], 0, -1, [], [none], true⟩
  else none

end Yaml

end RestModel
