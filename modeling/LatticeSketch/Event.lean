/-
# LatticeSketch.Event -- what a run reports on the way

Drawing, compiling and assembling report what they do as a list of events, oldest first.
An event is data; `level` and `message` say how it is shown.
-/
import LatticeSketch.Decimal.Scientific
import LatticeSketch.Geometry.Curve

namespace LatticeSketch

set_option autoImplicit false

/-- How much an event matters. -/
inductive Level where
  | debug
  | info
  | warn
deriving DecidableEq, Repr

/-- The word in front of a reported line. -/
def Level.name : Level → String
  | debug => "DEBUG"
  | info => "INFO"
  | warn => "WARN"

/-- Something worth telling about a lattice, a compilation or an assembly. -/
inductive Event where
  /-- The lattice kept under `name` is now a checkerboard of the given size. -/
  | checkerboardKept (name : String) (columns height : Nat)
  /-- `count` symbols of a lattice are not in the catalog. -/
  | unknownSymbols (count : Nat)
  | curveOriented (row column : Nat) (orientation : Curve.Orientation)
  | junctionSkipped (row column : Nat)
  | compiled (name : String) (directives sources monitors : Nat)
  | crystalPlaced (name : String) (left : Float) (shapes : Nat)
  | sourcesPlaced (count : Nat)
  | monitorsPlaced (count : Nat)
deriving DecidableEq, Repr

namespace Event

def level : Event → Level
  | unknownSymbols .. => .warn
  | curveOriented .. | junctionSkipped .. | compiled .. => .debug
  | checkerboardKept .. | crystalPlaced .. | sourcesPlaced .. | monitorsPlaced .. => .info

/-- A row and a column, as messages show them. -/
def place (row column : Nat) : String :=
  "(" ++ row.repr ++ ", " ++ column.repr ++ ")"

/-- The sentence that reports an event. -/
def message : Event → String
  | checkerboardKept name columns height =>
      "Default " ++ columns.repr ++ " x " ++ height.repr ++ " lattice generated for '" ++ name ++
        "'"
  | unknownSymbols count => count.repr ++ " unknown lattice symbols treated as empty sites"
  | curveOriented row column orientation =>
      "Curve at " ++ place row column ++ " oriented as " ++ orientation.name
  | junctionSkipped row column =>
      "Junction at " ++ place row column ++ " has no geometry yet, skipped"
  | compiled name directives sources monitors =>
      "Crystal '" ++ name ++ "' compiled: " ++ directives.repr ++ " directives, " ++
        sources.repr ++ " sources, " ++ monitors.repr ++ " monitors"
  | crystalPlaced name left shapes =>
      "Crystal '" ++ name ++ "' placed at x = " ++ Decimal.scientific left ++ " (" ++
        shapes.repr ++ " shapes)"
  | sourcesPlaced count => count.repr ++ " sources placed"
  | monitorsPlaced count => count.repr ++ " monitors placed"

/-- The line that shows an event. -/
def line (event : Event) : String :=
  event.level.name ++ " " ++ event.message

end Event

end LatticeSketch
