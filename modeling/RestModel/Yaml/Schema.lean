import RestModel.Hexadecimal
import RestModel.Json.Value

/-!
# The core schema — what the text of a scalar means

A plain scalar without a tag is null, a boolean, an integer or a float if it
is spelled like one, and otherwise its text. Integers may be hexadecimal,
octal or binary; digits after a leading zero are a text, and an integer
beyond 64 bits is refused. Floats that a double cannot hold are texts, and
the infinite ones and not-a-number, which JSON has no values for, are null. A tag
of the schema demands its type; under any other tag, and in quotes, a scalar
is its text.
-/

namespace RestModel

namespace Yaml

/-! ## Integers -/

/-- The value of a digit in a base up to sixteen. -/
def digit? (base : Nat) (c : Char) : Option Nat := (Quoted.hexValue? c).filter (· < base)

/-- The number that digits of a base spell, at least one of them. -/
def natural? (base : Nat) (digits : List Char) : Option Nat :=
  if digits.isEmpty then none
  else digits.foldl (fun n c => do return (← n) * base + (← digit? base c)) (some 0)

/-- A number with the mark of its base in front, if it is not decimal. -/
def based? : List Char → Option Nat
  | '0' :: 'x' :: digits => natural? 16 digits
  | '0' :: 'o' :: digits => natural? 8 digits
  | '0' :: 'b' :: digits => natural? 2 digits
  | _ => none

/-- A text without its sign. -/
def unsigned : List Char → List Char
  | c :: rest => if c = '+' || c = '-' then rest else c :: rest
  | [] => []

/-- Digits that are no number because of a leading zero. -/
def isPadded (s : List Char) : Bool :=
  match unsigned s with
  | '0' :: rest => !rest.isEmpty && rest.all Char.isDigit
  | _ => false

/-- The integer that a text spells, of any size. -/
def integer? (s : List Char) : Option Int :=
  let (negative, digits) :=
    match s with
    | '-' :: rest => (true, rest)
    | '+' :: rest => (false, rest)
    | _ => (false, s)
  let magnitude := (based? digits).or (if isPadded s then none else natural? 10 digits)
  magnitude.map fun n => if negative then -(n : Int) else n

/-! ## Floats -/

/-- The parts of a decimal: its digits, and the power of ten of the last one. -/
def decimalParts? (s : List Char) : Option (List Char × Int) := do
  let whole := s.takeWhile Char.isDigit
  let rest := s.dropWhile Char.isDigit
  let (fraction, rest) :=
    match rest with
    | '.' :: rest => (rest.takeWhile Char.isDigit, rest.dropWhile Char.isDigit)
    | _ => ([], rest)
  if whole.isEmpty && fraction.isEmpty then none
  let exponent : Int ←
    match rest with
    | [] => some 0
    | c :: rest =>
      if c = 'e' || c = 'E' then do
        let n ← natural? 10 (unsigned rest)
        pure (if rest.head? = some '-' then -(n : Int) else n)
      else none
  return (whole ++ fraction, exponent - fraction.length)

/-- The nearest double of a decimal, if that is finite. Beyond the given
powers of ten nothing but infinity and zero is left. -/
def nearest? (digits : List Char) (exponent : Int) : Option Float :=
  let significant := digits.dropWhile (· = '0')
  let n := significant.foldl (fun n d => n * 10 + (d.toNat - 48)) 0
  let magnitude := exponent + significant.length
  if n = 0 || magnitude < -400 then some 0.0
  else if 400 < magnitude then none
  else
    let x := Float.ofScientific n (exponent < 0) exponent.natAbs
    if x.isFinite then some x else none

/-- The finite double that a text spells. -/
def finite? (s : List Char) : Option Float :=
  let (negative, unsigned) :=
    match s with
    | '-' :: rest => (true, rest)
    | '+' :: rest => (false, rest)
    | _ => (false, s)
  (decimalParts? unsigned).bind fun (digits, exponent) =>
    (nearest? digits exponent).map fun x => if negative then -x else x

/-- The texts for what is no number of JSON. -/
def isUnbounded (text : String) : Bool :=
  [".inf", ".Inf", ".INF", "+.inf", "+.Inf", "+.INF", "-.inf", "-.Inf", "-.INF",
    ".nan", ".NaN", ".NAN"].contains text

/-- The float that a text spells, as JSON. -/
def float? (text : String) : Option Json :=
  if isUnbounded text then some .null
  else (finite? text.toList).map fun x => .num (.float x)

/-! ## Scalars -/

def isNull (text : String) : Bool := ["null", "Null", "NULL", "~"].contains text

def boolean? (text : String) : Option Bool :=
  if ["true", "True", "TRUE"].contains text then some true
  else if ["false", "False", "FALSE"].contains text then some false
  else none

/-- An integer as JSON, if it has at most 64 bits. -/
def integerJson? (n : Int) : Option Json :=
  if -0x8000000000000000 ≤ n && n < 0x10000000000000000 then some (.num (.int n)) else none

/-- An integer of so many bits that it is read as one at all. -/
def isInteger (n : Int) : Bool :=
  -0x80000000000000000000000000000000 ≤ n && n < 0x100000000000000000000000000000000

/-- The value of a plain scalar without a tag. -/
def plainValue? (text : String) : Option Json :=
  if text.isEmpty || isNull text then some .null
  else
    match boolean? text, (integer? text.toList).filter isInteger with
    | some b, _ => some (.bool b)
    | none, some n => integerJson? n
    | none, none =>
      if isPadded text.toList then some (.str text) else some ((float? text).getD (.str text))

/-- The value of a scalar. -/
def scalarValue? (tag : Option (List Char)) (plain : Bool) (text : String) : Option Json :=
  match tag with
  | none => if plain then plainValue? text else some (.str text)
  | some tag =>
    if tag = "tag:yaml.org,2002:bool".toList then (boolean? text).map .bool
    else if tag = "tag:yaml.org,2002:int".toList then
      ((integer? text.toList).filter isInteger).bind integerJson?
    else if tag = "tag:yaml.org,2002:float".toList then float? text
    else if tag = "tag:yaml.org,2002:null".toList then if isNull text then some .null else none
    else some (.str text)

end Yaml

end RestModel
