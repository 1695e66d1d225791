import RestModel.Hexadecimal
import RestModel.Yaml.Character
import RestModel.Yaml.Token

/-!
# YAML tags and directives — the texts that begin with `!` and `%`

A tag is a suffix, alone or after a handle that abbreviates its beginning,
or a whole tag in angle brackets. Octets outside the allowed characters are
written as `%` and two digits, and have to make up UTF-8 sequences.
-/

namespace RestModel

namespace Yaml

/-- A character that may stand in a tag, in angle brackets or not. -/
def isTagChar (bracketed : Bool) (c : Char) : Bool :=
  isWord c ||
    [';', '/', '?', ':', '@', '&', '=', '+', '$', '.', '!', '~', '*', '\'', '(', ')'].contains c ||
    (bracketed && (c = ',' || c = '[' || c = ']'))

/-- The number of octets in a UTF-8 sequence that begins with the given one. -/
def sequenceLength? (octet : Nat) : Option Nat :=
  if octet < 0x80 then some 1
  else if 0xC0 ≤ octet && octet < 0xE0 then some 2
  else if 0xE0 ≤ octet && octet < 0xF0 then some 3
  else if 0xF0 ≤ octet && octet < 0xF8 then some 4
  else none

/-- The characters of a tag from here on, given how many octets the last
escape still announces. -/
def tagChars? (bracketed : Bool) (pending : Nat) : List Char → Option (List Char × List Char)
  | '%' :: a :: b :: rest => do
    let octet ← Quoted.hexNumber? [a, b]
    let pending ←
      if pending = 0 then (sequenceLength? octet).map (· - 1)
      else if 0x80 ≤ octet && octet < 0xC0 then some (pending - 1)
      else none
    let (text, after) ← tagChars? bracketed pending rest
    return (Char.ofNat octet :: text, after)
  | c :: rest =>
    if pending ≠ 0 || c = '%' then none
    else if isTagChar bracketed c then
      (tagChars? bracketed 0 rest).map fun (text, after) => (c :: text, after)
    else some ([], c :: rest)
  | [] => if pending = 0 then some ([], []) else none

/-- A handle: an exclamation mark, a word, and a second mark if one follows. -/
def handle : List Char → List Char × List Char
  | '!' :: rest =>
    let word := rest.takeWhile isWord
    match rest.dropWhile isWord with
    | '!' :: after => ('!' :: (word ++ ['!']), after)
    | after => ('!' :: word, after)
  | s => ([], s)

/-- A tag, which begins with an exclamation mark. -/
def tag? (inFlow : Bool) (s : List Char) : Option (TagText × List Char) := do
  let (tag, rest) ←
    match s with
    | '!' :: '<' :: rest =>
      match tagChars? true 0 rest with
      | some (suffix@(_ :: _), '>' :: after) => some (⟨[], suffix⟩, after)
      | _ => none
    | _ =>
      let (start, rest) := handle s
      if 1 < start.length && start.getLast? == some '!' then
        match tagChars? false 0 rest with
        | some (suffix@(_ :: _), after) => some (⟨start, suffix⟩, after)
        | _ => none
      else
        (tagChars? false 0 rest).map fun (more, after) =>
          match start.drop 1 ++ more with
          | [] => ((⟨[], ['!']⟩ : TagText), after)
          | suffix => (⟨['!'], suffix⟩, after)
  if atGap rest || (inFlow && rest.head? == some ',') then some (tag, rest) else none

/-- A number of at most nine digits. -/
def versionNumber? (s : List Char) : Option (Nat × List Char) :=
  let digits := s.takeWhile Char.isDigit
  if digits.isEmpty || 9 < digits.length then none
  else some (digits.foldl (fun n d => n * 10 + (d.toNat - 48)) 0, s.dropWhile Char.isDigit)

/-- A directive, after its percent sign. -/
def directive? (s : List Char) : Option (Token × List Char) := do
  let name := s.takeWhile isWord
  let rest := s.dropWhile isWord
  if !atGap rest then none
  let rest := rest.dropWhile isBlank
  if name = ['Y', 'A', 'M', 'L'] then
    let (major, rest) ← versionNumber? rest
    let '.' :: rest := rest | none
    let (minor, rest) ← versionNumber? rest
    return (.version major minor, rest)
  else if name = ['T', 'A', 'G'] then
    let (start, rest) := handle rest
    if start = [] || (start ≠ ['!'] && start.getLast? ≠ some '!') then none
    if !rest.head?.any isBlank then none
    let (beginning, rest) ← tagChars? true 0 (rest.dropWhile isBlank)
    if beginning = [] || !atGap rest then none
    return (.tagHandle start beginning, rest)
  else none

end Yaml

end RestModel
