/-
# LatticeSketch.Decimal.Binary -- what the bits of a double stand for

A finite non-zero double is a sign and a positive number `mantissa * 2 ^ exponent`
(`Binary`).  The texts of a number (`Decimal.Shortest`, `Decimal.Fixed`) are worked
out on that pair in exact integer arithmetic and never by rounding a second time.

`Binary.contains` is the set of decimals that round back to the double: the reals
between the midpoints to its two neighbours, midpoints included exactly when the
mantissa is even.
-/
namespace LatticeSketch.Decimal

set_option autoImplicit false

/-- The positive number `mantissa * 2 ^ exponent`. -/
structure Binary where
  mantissa : Nat
  exponent : Int
deriving DecidableEq, Repr

/-- The size of a double, its sign left aside. -/
inductive Magnitude where
  | zero
  | finite (value : Binary)
  | infinite
  | notANumber
deriving DecidableEq, Repr

namespace Magnitude

/-- The least mantissa of a double that is not subnormal, `2 ^ 52`. -/
def leastMantissa : Nat := 0x10000000000000

/-- The size held by an eleven-bit exponent field and a 52-bit fraction field. -/
def ofFields (biased fraction : Nat) : Magnitude :=
  if biased = 2047 then
    if fraction = 0 then infinite else notANumber
  else if biased = 0 then
    if fraction = 0 then zero else finite ⟨fraction, -1074⟩
  else finite ⟨leastMantissa + fraction, (biased : Int) - 1075⟩

/-- The size of `x`. -/
def ofFloat (x : Float) : Magnitude :=
  ofFields (x.toBits.toNat / leastMantissa % 2048) (x.toBits.toNat % leastMantissa)

end Magnitude

/-- Whether the sign bit of `x` is set; it is for `-0.0`. -/
def isNegative (x : Float) : Bool :=
  0x8000000000000000 ≤ x.toBits.toNat

/-- `a * 10 ^ p` against `b * 2 ^ q`, exactly. -/
def compareScaled (a : Nat) (p : Int) (b : Nat) (q : Int) : Ordering :=
  compare (a * Nat.pow 10 p.toNat * Nat.pow 2 (-q).toNat)
    (b * Nat.pow 2 q.toNat * Nat.pow 10 (-p).toNat)

namespace Binary

/-- Whether the next double below is only half a step away: the mantissa is the
least of its binade, and a lower binade exists. -/
def startsBinade (b : Binary) : Bool :=
  b.mantissa == Magnitude.leastMantissa && b.exponent != -1074

/-- The midpoint to the double below, in quarters of a step. -/
def lowQuarters (b : Binary) : Nat :=
  4 * b.mantissa - (if b.startsBinade then 1 else 2)

/-- The midpoint to the double above, in quarters of a step. -/
def highQuarters (b : Binary) : Nat :=
  4 * b.mantissa + 2

/-- Whether the decimal `digits * 10 ^ power` rounds to `b`. -/
def contains (b : Binary) (digits : Nat) (power : Int) : Bool :=
  let low := compareScaled digits power b.lowQuarters (b.exponent - 2)
  let high := compareScaled digits power b.highQuarters (b.exponent - 2)
  let closed := b.mantissa % 2 == 0
  (low == .gt || (low == .eq && closed)) && (high == .lt || (high == .eq && closed))

/-- The greatest `d` with `d * 10 ^ power ≤ b`. -/
def floorAt (b : Binary) (power : Int) : Nat :=
  b.mantissa * Nat.pow 2 b.exponent.toNat * Nat.pow 10 (-power).toNat
    / (Nat.pow 10 power.toNat * Nat.pow 2 (-b.exponent).toNat)

end Binary

end LatticeSketch.Decimal
