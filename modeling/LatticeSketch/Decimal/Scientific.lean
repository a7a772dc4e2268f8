/-
# LatticeSketch.Decimal.Scientific -- numbers as scripts write them

`scientific x` is the shortest decimal of `x` with one digit before the point and an
exponent that has neither a plus sign nor padding: `4.26e-7`, `1e21`, `0e0`.  A point
is written only when digits follow it, a negative zero keeps its sign, and a
not-a-number never has one.
-/
import LatticeSketch.Decimal.Shortest

namespace LatticeSketch.Decimal

set_option autoImplicit false

/-- A digit sequence with a point after its first digit, if more follow. -/
def pointAfterFirst : List Char → List Char
  | [] => []
  | [d] => [d]
  | d :: rest => d :: '.' :: rest

/-- `digits * 10 ^ power` with one digit before the point. -/
def Scaled.scientific (s : Scaled) : List Char :=
  let digits := s.digits.repr.toList
  pointAfterFirst digits ++ 'e' :: (s.power + ((digits.length - 1 : Nat) : Int)).repr.toList

/-- The size of a number in scientific form. -/
def Magnitude.scientific : Magnitude → List Char
  | .zero => ['0', 'e', '0']
  | .finite b => b.shortest.scientific
  | .infinite => ['i', 'n', 'f']
  | .notANumber => ['N', 'a', 'N']

/-- The scientific form of `x`: the fewest digits that read back. -/
def scientific (x : Float) : String :=
  let size := Magnitude.ofFloat x
  String.ofList <|
    if isNegative x && size != .notANumber then '-' :: size.scientific else size.scientific

end LatticeSketch.Decimal
