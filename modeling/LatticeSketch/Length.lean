/-
# LatticeSketch.Length -- units of length

The letter case of a unit's name does not matter.  No letter outside ASCII has a lower-case
form that occurs in one of the names, so folding the ASCII letters is enough; the micro
sign U+00B5 is accepted, the Greek letter mu is not.
-/
namespace LatticeSketch

set_option autoImplicit false

/-- The units that lengths may be given in. -/
inductive LengthUnit where
  | meter
  | millimeter
  | micrometer
  | nanometer
deriving DecidableEq, Repr

namespace LengthUnit

/-- The unit called `name`. -/
def ofName? (name : String) : Option LengthUnit :=
  match String.ofList (name.toList.map Char.toLower) with
  | "m" | "meter" | "meters" => some meter
  | "mm" | "millimeter" | "millimeters" => some millimeter
  | "um" | "µm" | "micrometer" | "micrometers" => some micrometer
  | "nm" | "nanometer" | "nanometers" => some nanometer
  | _ => none

/-- The message that refuses a name. -/
def unknown (name : String) : String :=
  "Unknown unit: " ++ name ++ ". Use: m, mm, um, or nm"

/-- A length in this unit, in metres. -/
def toMeters (value : Float) : LengthUnit → Float
  | meter => value
  | millimeter => value * 1e-3
  | micrometer => value * 1e-6
  | nanometer => value * 1e-9

/-- A length in metres, in this unit. -/
def ofMeters (value : Float) : LengthUnit → Float
  | meter => value
  | millimeter => value * 1e3
  | micrometer => value * 1e6
  | nanometer => value * 1e9

end LengthUnit

end LatticeSketch
