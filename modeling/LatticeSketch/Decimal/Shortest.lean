/-
# LatticeSketch.Decimal.Shortest -- the fewest digits that read back

`Binary.shortest` looks for a decimal that rounds to the given double on ever finer
decimal grids `10 ^ p`, starting on a grid coarser than the value.  On each grid only
the two neighbours of the value can qualify; the first grid with a hit gives the fewest
digits, and of two hits the nearer one is taken, the upper one when both are equally
near.  The grid `10 ^ min exponent 0` holds the value itself, so the search ends there
at the latest.
-/
import LatticeSketch.Decimal.Binary

namespace LatticeSketch.Decimal

set_option autoImplicit false

/-- The number `digits * 10 ^ power`. -/
structure Scaled where
  digits : Nat
  power : Int
deriving DecidableEq, Repr

namespace Binary

/-- The better of the two neighbours of `b` on the grid `10 ^ power`, if either
rounds to `b`. -/
def onGrid? (b : Binary) (power : Int) : Option Scaled :=
  let below := b.floorAt power
  match b.contains below power, b.contains (below + 1) power with
  | false, false => none
  | true, false => some ⟨below, power⟩
  | false, true => some ⟨below + 1, power⟩
  | true, true =>
      match compareScaled (2 * below + 1) power (2 * b.mantissa) b.exponent with
      | .gt => some ⟨below, power⟩
      | _ => some ⟨below + 1, power⟩

/-- The first hit on `count + 1` grids, from `10 ^ power` to finer ones; the exact
lower neighbour when there is none. -/
def firstHit (b : Binary) (power : Int) : Nat → Scaled
  | 0 => (b.onGrid? power).getD ⟨b.floorAt power, power⟩
  | count + 1 => (b.onGrid? power).getD (b.firstHit (power - 1) count)

/-- A power of ten that `b` does not exceed. -/
def coarsePower (b : Binary) : Int :=
  let bits : Int := b.exponent + (b.mantissa.log2 : Int) + 1
  if 0 ≤ bits then bits / 3 + 1 else -(((-bits).toNat / 4 : Nat) : Int)

/-- The decimal with the fewest digits that rounds to `b`, the nearest such one. -/
def shortest (b : Binary) : Scaled :=
  b.firstHit b.coarsePower (b.coarsePower - min b.exponent 0).toNat

end Binary

end LatticeSketch.Decimal
