/-
# LatticeSketch.Decimal.Reading -- numbers as users write them

`readFloat?` accepts an optional sign followed by digits with an optional point and an
optional exponent, or by one of the words `inf`, `infinity` and `nan` in any case.
There has to be a digit before or after the point.  The value is the double nearest to
the decimal; a decimal beyond the largest double is infinite.

`readNat?` accepts an optional plus sign and digits.
-/
namespace LatticeSketch.Decimal

set_option autoImplicit false

/-- The number whose decimal digits are `digits`, most significant first. -/
def natOfDigits (digits : List Char) : Nat :=
  digits.foldl (fun n d => 10 * n + (d.toNat - '0'.toNat)) 0

/-- The double nearest to `digits * 10 ^ power`, where `digits` has at most `width` digits.
Far outside the range of doubles the power is not worked out. -/
def nearestFloat (digits width : Nat) (power : Int) : Float :=
  if digits = 0 then 0
  else if 400 < power then Float.ofScientific 1 false 400
  else if (width : Int) + power < -400 then 0
  else if 0 ≤ power then Float.ofScientific digits false power.toNat
  else Float.ofScientific digits true (-power).toNat

/-- A leading sign and what follows it; `true` for a minus sign. -/
def takeSign : List Char → Bool × List Char
  | '-' :: rest => (true, rest)
  | '+' :: rest => (false, rest)
  | rest => (false, rest)

/-- An exponent part that takes up the whole text; no text is exponent zero. -/
def readExponent? : List Char → Option Int
  | [] => some 0
  | mark :: rest =>
      if mark = 'e' ∨ mark = 'E' then
        let (negative, digits) := takeSign rest
        if digits.isEmpty || !digits.all Char.isDigit then none
        else if negative then some (-(natOfDigits digits : Int))
        else some (natOfDigits digits)
      else none

/-- An unsigned decimal with an optional point and exponent. -/
def readUnsigned? (text : List Char) : Option Float :=
  let whole := text.takeWhile Char.isDigit
  let rest := text.dropWhile Char.isDigit
  let (fraction, rest) := match rest with
    | '.' :: tail => (tail.takeWhile Char.isDigit, tail.dropWhile Char.isDigit)
    | _ => ([], rest)
  if whole.isEmpty && fraction.isEmpty then none
  else (readExponent? rest).map fun power =>
    nearestFloat (natOfDigits (whole ++ fraction)) (whole ++ fraction).length
      (power - (fraction.length : Int))

/-- The words for the values that are not finite; letter case does not matter. -/
def readWord? (text : List Char) : Option Float :=
  let word := text.map Char.toLower
  if word = ['i', 'n', 'f'] ∨ word = ['i', 'n', 'f', 'i', 'n', 'i', 't', 'y'] then some (1 / 0)
  else if word = ['n', 'a', 'n'] then some (0 / 0)
  else none

/-- The number written by the whole of `text`. -/
def readFloat? (text : String) : Option Float :=
  let (negative, rest) := takeSign text.toList
  ((readWord? rest).or (readUnsigned? rest)).map fun x => if negative then -x else x

/-- The natural number below `bound` written by the whole of `text`. -/
def readNat? (bound : Nat) (text : String) : Option Nat :=
  let digits := match text.toList with
    | '+' :: rest => rest
    | rest => rest
  if digits.isEmpty || !digits.all Char.isDigit then none
  else if natOfDigits digits < bound then some (natOfDigits digits) else none

end LatticeSketch.Decimal
