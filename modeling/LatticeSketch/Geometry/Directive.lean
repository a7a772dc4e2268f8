/-
# LatticeSketch.Geometry.Directive -- the shapes of one crystal

A structure group rebuilds its shapes by running a script of its own.  `Stream` is that
script as a list of directives: it clears what an earlier run left behind and then adds
one shape after the other.  `Stream.script` writes each directive as a block of lines and
leaves one empty line between two blocks.
-/
import LatticeSketch.Decimal.Scientific
import LatticeSketch.Geometry.Plane

namespace LatticeSketch

set_option autoImplicit false

/-- The material of every etched shape. -/
def etchMaterial : String := "etch"

/-- One shape command. -/
inductive Directive where
  /-- Clears everything that the group has drawn. -/
  | deleteAll
  | circle (center : Point) (radius z depth : Float) (material : String)
  /-- A closed polygon whose vertices are displacements from `center`. -/
  | polygon (center : Point) (vertices : List Point) (depth : Float) (material : String)
deriving DecidableEq, Repr

namespace Directive

/-- A script line that sets a property to an unquoted literal. -/
def setLine (key literal : String) : String :=
  "set(\"" ++ key ++ "\", " ++ literal ++ ");\n"

/-- A script line that sets a property to a number. -/
def setNumber (key : String) (value : Float) : String :=
  setLine key (Decimal.scientific value)

/-- A script line that sets a property to a text between double quotes. -/
def setText (key value : String) : String :=
  setLine key ("\"" ++ value ++ "\"")

/-- A vertex, its coordinates apart by a comma. -/
def vertexText (vertex : Point) : String :=
  Decimal.scientific vertex.x ++ "," ++ Decimal.scientific vertex.y

/-- The vertices of a polygon, apart by semicolons. -/
def vertexList (vertices : List Point) : String :=
  "[" ++ String.intercalate ";" (vertices.map vertexText) ++ "]"

/-- The block of script lines of a directive. -/
def script : Directive → String
  | deleteAll => "deleteall;\n"
  | circle center radius z depth material =>
      "addcircle;\n" ++ setNumber "radius" radius ++ setNumber "x" center.x ++
        setNumber "y" center.y ++ setNumber "z" z ++ setNumber "z span" depth ++
        setText "material" material
  | polygon center vertices depth material =>
      "addpoly;\n" ++ setNumber "x" center.x ++ setNumber "y" center.y ++
        setLine "vertices" (vertexList vertices) ++ setNumber "z span" depth ++
        setText "material" material

end Directive

/-- The directives of one crystal, in order. -/
structure Stream where
  directives : List Directive
deriving DecidableEq, Repr

namespace Stream

/-- The stream without any directive. -/
def empty : Stream := ⟨[]⟩

/-- The stream that clears what was drawn before. -/
def start : Stream := ⟨[.deleteAll]⟩

def push (stream : Stream) (directive : Directive) : Stream :=
  ⟨stream.directives ++ [directive]⟩

/-- The number of directives; the clearing one counts. -/
def size (stream : Stream) : Nat :=
  stream.directives.length

/-- Centre and radius of every circle. -/
def circles (stream : Stream) : List (Point × Float) :=
  stream.directives.filterMap fun
    | .circle center radius _ _ _ => some (center, radius)
    | _ => none

/-- Centre and vertices of every polygon. -/
def polygons (stream : Stream) : List (Point × List Point) :=
  stream.directives.filterMap fun
    | .polygon center vertices _ _ => some (center, vertices)
    | _ => none

/-- The script of the whole stream, an empty line between two directives. -/
def script (stream : Stream) : String :=
  String.intercalate "\n" (stream.directives.map Directive.script)

end Stream

end LatticeSketch
