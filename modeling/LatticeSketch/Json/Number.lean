/-
# LatticeSketch.Json.Number -- numbers of a JSON text

A number that is read keeps its digits in 64 bits as far as they fit; further digits only
count towards the power of ten.  Its value is worked out by one multiplication or division
of that significand with a power of ten (`scaled`), two or more where the power is beyond
the range of doubles.  A number without point and exponent stays an integer if it fits in
64 bits; a negative zero does not.

A number that is passed over may be of any size.
-/
import LatticeSketch.Decimal.Reading
import LatticeSketch.Json.Lexeme

namespace LatticeSketch.Json

set_option autoImplicit false

/-- The value of a number: an integer of 64 bits, with its sign, or a double. -/
inductive Number where
  | natural (size : Nat)
  | negative (size : Nat)
  | real (value : Float)
deriving DecidableEq, Repr

/-- The greatest significand. -/
def significandLimit : Nat := 0xFFFFFFFFFFFFFFFF

/-- The greatest size of a negative integer. -/
def negativeLimit : Nat := 0x8000000000000000

/-- The greatest power of ten that is a double. -/
def greatestPower : Nat := 308

/-- Appends digits to a significand as far as they fit, and answers with those left over. -/
def gather (significand : Nat) : List Char → Nat × List Char
  | [] => (significand, [])
  | d :: digits =>
      let next := 10 * significand + (d.toNat - '0'.toNat)
      if next ≤ significandLimit then gather next digits else (significand, d :: digits)

def powerOfTen (power : Nat) : Float :=
  Float.ofScientific 1 false power

/-- `value` divided by ten to the `power`. -/
def scaledDown (value : Float) (power : Nat) : Float :=
  if power ≤ greatestPower then value / powerOfTen power
  else if value == 0 then value
  else scaledDown (value / powerOfTen greatestPower) (power - greatestPower)
termination_by power
decreasing_by simp only [greatestPower] at *; omega

/-- `significand` times ten to the `power`; a value beyond the range of doubles is refused. -/
def scaled (negative : Bool) (significand : Nat) (power : Int) : Except JsonFault Float :=
  let signed (value : Float) : Float := if negative then -value else value
  if power < 0 then .ok (signed (scaledDown significand.toFloat (-power).toNat))
  else if power.toNat ≤ greatestPower then
    let value := significand.toFloat * powerOfTen power.toNat
    if value.isInf then .error .malformed else .ok (signed value)
  else if significand = 0 then .ok (signed 0)
  else .error .malformed

/-- The exponent whose mark has been taken off. -/
def readExponent : Reader Int
  | [] => .error .unfinished
  | c :: rest =>
      let signed := c = '+' ∨ c = '-'
      let text := if signed then rest else c :: rest
      let digits := text.takeWhile Char.isDigit
      if digits.isEmpty then .error (if text.isEmpty then .unfinished else .malformed)
      else
        let size : Int := Decimal.natOfDigits digits
        .ok (if c = '-' then -size else size, text.dropWhile Char.isDigit)

/-- The value of a number whose significand has been read, from its exponent part on. -/
def readScaled (negative : Bool) (significand : Nat) (power : Int) : Reader Number
  | c :: rest =>
      if c = 'e' ∨ c = 'E' then do
        let (more, rest) ← readExponent rest
        let value ← scaled negative significand (power + more)
        return (.real value, rest)
      else do
        let value ← scaled negative significand power
        return (.real value, c :: rest)
  | [] => do
      let value ← scaled negative significand power
      return (.real value, [])

/-- The value of a number from the digits after its point on. -/
def readFraction (negative : Bool) (significand : Nat) (power : Int) : Reader Number := fun text =>
  let digits := text.takeWhile Char.isDigit
  let rest := text.dropWhile Char.isDigit
  if digits.isEmpty then .error (if rest.isEmpty then .unfinished else .malformed)
  else
    let (whole, left) := gather significand digits
    readScaled negative whole (power - ((digits.length - left.length : Nat) : Int)) rest

/-- An integer as it is, or as a double where it does not fit. -/
def integer (negative : Bool) (significand : Nat) : Number :=
  if negative then
    if 0 < significand ∧ significand ≤ negativeLimit then .negative significand
    else .real (-significand.toFloat)
  else .natural significand

/-- The number whose sign has been taken off. -/
def readNumber (negative : Bool) : Reader Number := fun text =>
  let digits := text.takeWhile Char.isDigit
  let rest := text.dropWhile Char.isDigit
  if digits.isEmpty then .error (if text.isEmpty then .unfinished else .malformed)
  else if digits.head? = some '0' ∧ digits.length ≠ 1 then .error .malformed
  else
    let (significand, left) := gather 0 digits
    match rest with
    | '.' :: rest => readFraction negative significand left.length rest
    | _ =>
        if left.isEmpty ∧ rest.head? ≠ some 'e' ∧ rest.head? ≠ some 'E' then
          .ok (integer negative significand, rest)
        else readScaled negative significand left.length rest

/-! ## Passing over -/

/-- Passes over one digit or more. -/
def skipDigits (text : List Char) : Except JsonFault (List Char) :=
  if (text.takeWhile Char.isDigit).isEmpty then .error .malformed
  else .ok (text.dropWhile Char.isDigit)

/-- Passes over an exponent part, if there is one. -/
def skipExponent : List Char → Except JsonFault (List Char)
  | c :: rest =>
      if c = 'e' ∨ c = 'E' then
        match rest with
        | '+' :: digits => skipDigits digits
        | '-' :: digits => skipDigits digits
        | digits => skipDigits digits
      else .ok (c :: rest)
  | [] => .ok []

/-- Passes over a number whose sign has been taken off. -/
def skipNumber (text : List Char) : Except JsonFault (List Char) := do
  let digits := text.takeWhile Char.isDigit
  if digits.head? = some '0' ∧ digits.length ≠ 1 then throw .malformed
  match ← skipDigits text with
  | '.' :: fraction => skipExponent (← skipDigits fraction)
  | rest => skipExponent rest

end LatticeSketch.Json
