/-!
# Shortest decimals — the fewest digits that read back as a double

A double `m · 2^q` owns the decimals that lie nearer to it than to its
neighbours, the two borders included when `m` is even. `shortest` looks for
the fewest significant digits with which some decimal lies there: for each
count of digits only the two decimals around the double can, and of two that
do the nearer is taken, the even one if both are equally near. All of it is
exact arithmetic on natural numbers.
-/

namespace RestModel

namespace Decimal

/-- A positive decimal `digits · 10^exponent`. -/
structure Scaled where
  digits : Nat
  exponent : Int
  deriving Repr, DecidableEq

/-- A positive double as `mantissa · 2^exponent`. `narrow` marks a power of
two, whose lower neighbour is at half the distance of the upper one. -/
structure Binary where
  mantissa : Nat
  exponent : Int
  narrow : Bool
  deriving Repr, DecidableEq

/-- The first number of 53 bits, which the fraction of a double adds to. -/
def hiddenBit : Nat := 0x10000000000000

/-- The parts of a double, without its sign. -/
def Binary.ofBits (bits : Nat) : Binary :=
  let fraction : Nat := bits % hiddenBit
  let scale : Nat := bits / hiddenBit % 0x800
  if scale = 0 then ⟨fraction, -1074, false⟩
  else ⟨fraction + hiddenBit, (scale : Int) - 1075, fraction == 0 && 1 < scale⟩

/-- `n · 2^e` as a numerator and a denominator. -/
def timesPow (base n : Nat) (e : Int) : Nat × Nat :=
  if e < 0 then (n, base.pow (-e).toNat) else (n * base.pow e.toNat, 1)

/-- The exponent of the leading decimal digit of `num / den`, both positive:
the greatest `k` with `10^k ≤ num / den`. -/
def leadingExponent (num den : Nat) : Int :=
  let digitCount (n : Nat) : Int := (Nat.toDigits 10 n).length
  let guess := digitCount num - digitCount den
  let (high, low) := timesPow 10 den guess
  if num * low < high then guess - 1 else guess

/-- The decimal of the given count of digits that reads back as the double,
if there is one. -/
def withDigits (x : Binary) (count : Nat) : Option Scaled :=
  let below := if x.narrow then 1 else 2
  let (num, den) := timesPow 2 (4 * x.mantissa) (x.exponent - 2)
  let (unit, _) := timesPow 2 1 (x.exponent - 2)
  let grid := leadingExponent num den - (count : Int) + 1
  -- all quantities below are multiples of the common unit `1 / (den · down)`
  let (up, down) := timesPow 10 1 grid
  let value := num * down
  let step := up * den
  let low := value - below * unit * down
  let high := value + 2 * unit * down
  let inside (d : Nat) : Bool :=
    let p := d * step
    if x.mantissa % 2 = 0 then low ≤ p && p ≤ high else low < p && p < high
  let d := value / step
  match inside d, inside (d + 1) with
  | false, false => none
  | true, false => some ⟨d, grid⟩
  | false, true => some ⟨d + 1, grid⟩
  | true, true =>
    let beneath := value - d * step
    let beyond := (d + 1) * step - value
    let upper := beyond < beneath || (beyond = beneath && d % 2 = 1)
    some ⟨if upper then d + 1 else d, grid⟩

/-- The fewest digits, at most seventeen, that read back as the double. -/
def shortest (x : Binary) : Scaled :=
  ((List.range 17).findSome? fun n => withDigits x (n + 1)).getD ⟨x.mantissa, 0⟩

end Decimal

end RestModel
