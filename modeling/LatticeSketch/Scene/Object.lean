/-
# LatticeSketch.Scene.Object -- the objects of a simulation scene

A scene is made of named objects.  Each has a kind, which decides the script command that
creates it, and properties in the order in which they are set; a key may occur more than
once, and looking a key up finds its first value.
-/
import LatticeSketch.Decimal.Scientific

namespace LatticeSketch

set_option autoImplicit false

/-- The kinds of object that a scene holds. -/
inductive ObjectKind where
  | structureGroup
  | modeSource
  | powerMonitor
  | rectangle
  | fdtdRegion
  | profileMonitor
  | indexMonitor
  | movie
deriving DecidableEq, Repr

/-- The script command that creates an object of the kind. -/
def ObjectKind.command : ObjectKind → String
  | structureGroup => "addstructuregroup"
  | modeSource => "addmode"
  | powerMonitor => "addpower"
  | rectangle => "addrect"
  | fdtdRegion => "addfdtd"
  | profileMonitor => "addprofile"
  | indexMonitor => "addindex"
  | movie => "addmovie"

/-- The value of a property. -/
inductive Value where
  | number (value : Float)
  | integer (value : Int)
  | flag (value : Bool)
  | text (value : String)
deriving DecidableEq, Repr

namespace Value

/-- A text between single quotes if it holds a double quote, so that scripts inside scripts
keep their own quotes, and between double quotes otherwise. -/
def quotedText (text : String) : String :=
  if text.toList.contains '"' then "'" ++ text ++ "'" else "\"" ++ text ++ "\""

/-- The script literal of a value. -/
def literal : Value → String
  | number value => Decimal.scientific value
  | integer value => value.repr
  | flag true => "true"
  | flag false => "false"
  | text value => quotedText value

def number? : Value → Option Float
  | number value => some value
  | _ => none

def text? : Value → Option String
  | text value => some value
  | _ => none

end Value

/-- A named object and its properties in the order in which they are set. -/
structure SceneObject where
  name : String
  kind : ObjectKind
  properties : List (String × Value)
deriving DecidableEq, Repr

/-- The first value set for `key`. -/
def SceneObject.get? (object : SceneObject) (key : String) : Option Value :=
  (object.properties.find? fun property => property.1 == key).map Prod.snd

end LatticeSketch
