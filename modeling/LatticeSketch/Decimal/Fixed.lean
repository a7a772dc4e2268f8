/-
# LatticeSketch.Decimal.Fixed -- numbers with a fixed count of places

`fixed places x` writes the exact binary value of `x` with `places` digits after the
point.  A value half-way between two such decimals goes to the one with the even last
digit (`roundHalfEven`).
-/
import LatticeSketch.Decimal.Binary

namespace LatticeSketch.Decimal

set_option autoImplicit false

/-- `num / den` to the nearest integer, a half to the even one. -/
def roundHalfEven (num den : Nat) : Nat :=
  let low := num / den
  match compare (2 * (num % den)) den with
  | .lt => low
  | .eq => low + low % 2
  | .gt => low + 1

/-- The number of units of `10 ^ (-places)` nearest to `b`. -/
def Binary.roundedUnits (b : Binary) (places : Nat) : Nat :=
  roundHalfEven (b.mantissa * Nat.pow 2 b.exponent.toNat * Nat.pow 10 places)
    (Nat.pow 2 (-b.exponent).toNat)

/-- `units * 10 ^ (-places)` in positional form. -/
def positional (places units : Nat) : List Char :=
  let fraction := (units % Nat.pow 10 places).repr.toList
  let whole := (units / Nat.pow 10 places).repr.toList
  if places = 0 then whole
  else whole ++ '.' :: (List.replicate (places - fraction.length) '0' ++ fraction)

/-- The size of a number with `places` digits after the point. -/
def Magnitude.fixed (places : Nat) : Magnitude → List Char
  | .zero => positional places 0
  | .finite b => positional places (b.roundedUnits places)
  | .infinite => ['i', 'n', 'f']
  | .notANumber => ['N', 'a', 'N']

/-- `x` with `places` digits after the point; a number that rounds to zero keeps its sign. -/
def fixed (places : Nat) (x : Float) : String :=
  let size := Magnitude.ofFloat x
  String.ofList <|
    if isNegative x && size != .notANumber then '-' :: size.fixed places else size.fixed places

end LatticeSketch.Decimal
