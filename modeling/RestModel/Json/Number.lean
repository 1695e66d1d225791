import RestModel.Json.Value
import RestModel.Decimal.Shortest

/-!
# Numbers as text — how a number is read and how it is written

An integer that fits 64 bits is kept exactly. Any other number becomes a
double: the digits that fit 64 bits are gathered, the others only move the
decimal point, and the result is scaled by a power of ten in double
arithmetic. A double is written with the fewest digits that read back,
positionally from `0.00001` up to below `10^16` and with an exponent outside,
and always so that it is recognised as one (`1000.0`, `1e+16`).
-/

namespace RestModel

namespace Number

/-! ## Reading -/

/-- The digits read so far and the power of ten that they still lack.
`full` means that a digit no longer fitted. -/
structure Gathered where
  significand : Nat
  exponent : Int
  full : Bool

/-- One more digit, before (`shift = 0`) or after (`shift = 1`) the point.
Once a digit does not fit, it and all later ones are dropped. -/
def Gathered.push (shift : Int) (g : Gathered) (digit : Char) : Gathered :=
  let next := g.significand * 10 + (digit.toNat - 48)
  if g.full || 0x10000000000000000 ≤ next then
    { g with exponent := g.exponent + 1 - shift, full := true }
  else { g with significand := next, exponent := g.exponent - shift }

/-- Multiplies or divides by a power of ten, in steps that a double holds.
`none` if the result would be infinite. -/
def scale (fuel : Nat) (x : Float) (exponent : Int) : Option Float :=
  let power (n : Nat) : Float := Float.ofScientific 1 false n
  if exponent.natAbs ≤ 308 then
    if 0 ≤ exponent then
      let y := x * power exponent.toNat
      if y.isInf then none else some y
    else some (x / power exponent.natAbs)
  else if x == 0.0 then some x
  else if 0 ≤ exponent then none
  else
    match fuel with
    | 0 => some x
    | fuel + 1 => scale fuel (x / power 308) (exponent + 308)

/-- The double with the given sign, digits and power of ten. Dividing by
`10^308` three times leaves nothing of any significand. -/
def ofGathered (negative : Bool) (g : Gathered) (exponent : Int) : Option Number :=
  (scale 4 g.significand.toUInt64.toFloat (g.exponent + exponent)).map fun x =>
    .float (if negative then -x else x)

/-- The exponent of an `e` part. -/
def readExponent? (text : List Char) : Option Int :=
  let (negative, digits) :=
    match text with
    | '-' :: rest => (true, rest)
    | '+' :: rest => (false, rest)
    | _ => (false, text)
  if digits.isEmpty || !digits.all Char.isDigit then none
  else
    let n : Nat := digits.foldl (fun n d => n * 10 + (d.toNat - 48)) 0
    some (if negative then -(n : Int) else n)

/-- What follows the integer and fraction digits: nothing, or an exponent.
An exponent that 32 bits do not hold makes zero of anything when negative,
keeps zero, and is refused otherwise. -/
def finish (negative : Bool) (g : Gathered) : List Char → Option Number
  | [] => ofGathered negative g 0
  | c :: rest =>
    if c = 'e' || c = 'E' then
      (readExponent? rest).bind fun e =>
        if e.natAbs < 0x80000000 then ofGathered negative g e
        else if g.significand ≠ 0 && 0 < e then none
        else some (.float (if negative then -0.0 else 0.0))
    else none

/-- The number after its sign. -/
def readUnsigned? (negative : Bool) (text : List Char) : Option Number :=
  let digits := text.takeWhile Char.isDigit
  let rest := text.dropWhile Char.isDigit
  if digits.isEmpty || (digits.head? == some '0' && 1 < digits.length) then none
  else
    let whole := digits.foldl (Gathered.push 0) ⟨0, 0, false⟩
    match rest with
    | [] =>
      if whole.full then ofGathered negative whole 0
      else if !negative then some (.int whole.significand)
      else if whole.significand = 0 then some (.float (-0.0))
      else if whole.significand ≤ 0x8000000000000000 then some (.int (-whole.significand))
      else some (.float (-whole.significand.toUInt64.toFloat))
    | '.' :: rest =>
      let fraction := rest.takeWhile Char.isDigit
      if fraction.isEmpty then none
      else
        let gathered := fraction.foldl (Gathered.push 1) { whole with full := false }
        finish negative gathered (rest.dropWhile Char.isDigit)
    | _ => finish negative whole rest

/-- The number that a text spells, all of it. -/
def read? : List Char → Option Number
  | '-' :: rest => readUnsigned? true rest
  | text => readUnsigned? false text

/-! ## Writing -/

/-- Digits without the zeros at their end, and the point's place: the value
is `0.digits · 10^point`. -/
def digitsAndPoint (s : Decimal.Scaled) : List Char × Int :=
  let all := (toString s.digits).toList
  let kept := (all.reverse.dropWhile (· == '0')).reverse
  (kept, s.exponent + all.length)

/-- A positive double's digits, with the point where it belongs or with an
exponent. -/
def layout (digits : List Char) (point : Int) : List Char :=
  if 0 < point && point ≤ 16 then
    let before := point.toNat
    if digits.length ≤ before then
      digits ++ List.replicate (before - digits.length) '0' ++ ['.', '0']
    else digits.take before ++ '.' :: digits.drop before
  else if -5 < point && point ≤ 0 then
    '0' :: '.' :: (List.replicate (-point).toNat '0' ++ digits)
  else
    let e := point - 1
    let mark := (if e < 0 then "e-" else "e+").toList ++ (toString e.natAbs).toList
    match digits with
    | [] => mark
    | [d] => d :: mark
    | d :: rest => d :: '.' :: (rest ++ mark)

/-- A finite double as text. -/
def floatText (x : Float) : List Char :=
  let bits := x.toBits.toNat
  let sign := if 0x8000000000000000 ≤ bits then ['-'] else []
  let magnitude := Decimal.Binary.ofBits bits
  if magnitude.mantissa = 0 then sign ++ "0.0".toList
  else
    let (digits, point) := digitsAndPoint (Decimal.shortest magnitude)
    sign ++ layout digits point

/-- A number as text. -/
def text : Number → List Char
  | .int value => (toString value).toList
  | .float value => floatText value

end Number

end RestModel
