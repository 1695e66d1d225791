import RestModel.Toml.Value
import RestModel.Toml.Text
import RestModel.Toml.Moment

/-!
# Reading TOML — the statements of a settings file

A settings file is a sequence of lines: a header, which names the table that
the following lines fill, or a key and its value. Lists with items, lists of
tables, numbers and booleans are refused where they stand, since no setting
holds one.
-/

namespace RestModel

namespace Toml

/-- White space within a line. -/
def isSpace (c : Char) : Bool := c = ' ' || c = '\t'

/-- What follows white space. -/
def skipSpace (s : List Char) : List Char := s.dropWhile isSpace

/-- What follows the rest of a line in which nothing but a comment may stand. -/
def lineEnd? (s : List Char) : Option (List Char) :=
  let s :=
    match skipSpace s with
    | '#' :: rest => rest.dropWhile isPrintable
    | rest => rest
  match s with
  | [] => some []
  | '\n' :: rest => some rest
  | '\r' :: '\n' :: rest => some rest
  | _ => none

/-! ## Keys -/

/-- A character of a key without quotes. -/
def isBare (c : Char) : Bool := c.isAlphanum || c = '_' || c = '-'

/-- A key without dots and what follows it. -/
def simpleKey? : List Char → Option (String × List Char)
  | '"' :: rest => (basic? rest).map fun (key, after) => (String.ofList key, after)
  | '\'' :: rest => (literal? rest).map fun (key, after) => (String.ofList key, after)
  | s =>
    let key := s.takeWhile isBare
    if key.isEmpty then none else some (String.ofList key, s.dropWhile isBare)

/-- The parts of a dotted key and what follows it, white space included. -/
def key? (fuel : Nat) (s : List Char) : Option (List String × List Char) := do
  let (first, s) ← simpleKey? s
  match fuel, skipSpace s with
  | fuel + 1, '.' :: rest => do
    let (others, s) ← key? fuel (skipSpace rest)
    return (first :: others, s)
  | _, s => return ([first], s)

/-! ## Values -/

/-- What follows the end of an empty list, in which there may be comments. -/
def listEnd? (fuel : Nat) (s : List Char) : Option (List Char) :=
  match fuel, skipSpace s with
  | _, ']' :: rest => some rest
  | _, [] => none
  | fuel + 1, s => (lineEnd? s).bind (listEnd? fuel)
  | 0, _ => none

mutual

/-- A value and what follows it. -/
def value? (fuel : Nat) (s : List Char) : Option (Value × List Char) :=
  match fuel, s with
  | 0, _ => none
  | fuel + 1, '[' :: rest => (listEnd? fuel rest).map fun after => (.emptyList, after)
  | fuel + 1, '{' :: rest =>
    match skipSpace rest with
    | '}' :: after => some (.table .inline [], after)
    | rest => inline? fuel [] rest
  | _ + 1, s =>
    match text? s with
    | some (text, after) => some (.text (String.ofList text), after)
    | none => do
      let after ← afterMoment? s
      return (.moment (String.ofList (s.take (s.length - after.length))), after)

/-- The further fields of a table in braces. -/
def inline? (fuel : Nat) (fields : Fields) (s : List Char) : Option (Value × List Char) :=
  match fuel with
  | 0 => none
  | fuel + 1 => do
    let (key, s) ← key? s.length s
    let s ← after? '=' s
    let (value, s) ← value? fuel (skipSpace s)
    let fields ← assign? fields key value
    match skipSpace s with
    | '}' :: after => some (.table .inline fields, after)
    | ',' :: rest => inline? fuel fields (skipSpace rest)
    | _ => none

end

/-! ## Statements -/

/-- The fields of a file, given those so far and the header that is in force. -/
def lines? (fuel : Nat) (fields : Fields) (header : List String) (s : List Char) :
    Option Fields :=
  match fuel, skipSpace s with
  | _, [] => some fields
  | 0, _ => none
  | fuel + 1, '[' :: rest => do
    let (header, s) ← key? rest.length (skipSpace rest)
    let s ← lineEnd? (← after? ']' s)
    lines? fuel (← define? fields header) header s
  | fuel + 1, c :: rest =>
    if c = '#' || c = '\n' || c = '\r' then
      (lineEnd? (c :: rest)).bind (lines? fuel fields header)
    else do
      let (key, s) ← key? rest.length (c :: rest)
      let (value, s) ← value? s.length (skipSpace (← after? '=' s))
      let s ← lineEnd? s
      lines? fuel (← assignUnder? fields header key value) header s

/-- The fields of a settings file. A byte order mark may stand before it. -/
def read? (text : String) : Option Fields :=
  let s :=
    match text.toList with
    | '\ufeff' :: rest => rest
    | s => s
  lines? (s.length + 1) [] [] s

end Toml

end RestModel
