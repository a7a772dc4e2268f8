/-
# LatticeSketch.Geometry.Curve -- waveguide bends

A curve is drawn as a ten-vertex outline in a frame of its own (`Curve.outline`) with a
fillet hole beside it, and both are mirrored and shifted to fit the sites around the
curve.  Which of the six sites next to it are empty selects the orientation
(`Surroundings.orientation`): adjacent pairs of empty sites are looked at before single
ones, upper before lower and left before right.
-/
import LatticeSketch.Geometry.Plane

namespace LatticeSketch.Curve

set_option autoImplicit false

/-- Which of the six sites around a curve are empty; "up" is the next higher row. -/
structure Surroundings where
  upLeft : Bool
  up : Bool
  upRight : Bool
  downLeft : Bool
  down : Bool
  downRight : Bool
deriving DecidableEq, Repr

/-- How a curve lies, named for the empty sites that select it. -/
inductive Orientation where
  | upLeftAndUp
  | upAndUpRight
  | downLeftAndDown
  | downAndDownRight
  | upLeft
  | upRight
  | downLeft
  | downRight
  | straight
deriving DecidableEq, Repr

/-- The name that messages use. -/
def Orientation.name : Orientation → String
  | upLeftAndUp => "UpLeftAndUp"
  | upAndUpRight => "UpAndUpRight"
  | downLeftAndDown => "DownLeftAndDown"
  | downAndDownRight => "DownAndDownRight"
  | upLeft => "UpLeft"
  | upRight => "UpRight"
  | downLeft => "DownLeft"
  | downRight => "DownRight"
  | straight => "Straight"

/-- The orientation that the empty sites select; the first that applies. -/
def Surroundings.orientation (around : Surroundings) : Orientation :=
  if around.upLeft && around.up then .upLeftAndUp
  else if around.up && around.upRight then .upAndUpRight
  else if around.downLeft && around.down then .downLeftAndDown
  else if around.down && around.downRight then .downAndDownRight
  else if around.upLeft then .upLeft
  else if around.upRight then .upRight
  else if around.downLeft then .downLeft
  else if around.downRight then .downRight
  else .straight

/-- The map that orients an outline: scaling by `scale`, then a shift by `offset`.  The
displacement of the fillet is scaled by `filletSign` alone. -/
structure Transform where
  scale : Point
  offset : Point
  filletSign : Point
deriving DecidableEq, Repr

/-- The image of a vertex of the outline. -/
def Transform.apply (t : Transform) (vertex : Point) : Point :=
  (vertex.scale t.scale).add t.offset

/-- The map of an orientation, for lattice constant `a` and row pitch `h`. -/
def Orientation.transform (a h : Float) : Orientation → Transform
  | upLeftAndUp => ⟨⟨-1, -1⟩, ⟨1.5 * a, h⟩, ⟨1, 1⟩⟩
  | upAndUpRight => ⟨⟨-1, 1⟩, ⟨2 * a, 0⟩, ⟨-1, 1⟩⟩
  | downLeftAndDown => ⟨⟨-1, 1⟩, ⟨1.5 * a, -h⟩, ⟨1, -1⟩⟩
  | downAndDownRight => ⟨⟨-1, -1⟩, ⟨2 * a, 0⟩, ⟨-1, -1⟩⟩
  | upLeft => ⟨⟨1, 1⟩, ⟨-2 * a, 0⟩, ⟨1, 1⟩⟩
  | upRight => ⟨⟨1, -1⟩, ⟨-1.5 * a, h⟩, ⟨-1, 1⟩⟩
  | downLeft => ⟨⟨1, -1⟩, ⟨-2 * a, 0⟩, ⟨1, -1⟩⟩
  | downRight => ⟨⟨1, 1⟩, ⟨-1.5 * a, -h⟩, ⟨-1, -1⟩⟩
  | straight => ⟨⟨1, 1⟩, ⟨0, 0⟩, ⟨1, 1⟩⟩

/-- The outline in the curve's own frame, with ends of radius `r`. -/
def outline (a h r : Float) : List Point :=
  [⟨0, r⟩,
   ⟨a, r⟩,
   Point.add ⟨2.5 * a, h⟩ (.polar 120 r),
   Point.add ⟨3 * a, 2 * h⟩ (.polar 150 r),
   Point.add ⟨3 * a, 2 * h⟩ (.polar (-30) r),
   Point.add ⟨2.5 * a, h⟩ (.polar (-30) r),
   Point.add ⟨2.5 * a, h⟩ (.polar (-60) r),
   Point.add ⟨a, 0⟩ (.polar (-60) r),
   ⟨a, -r⟩,
   ⟨0, -r⟩]

/-- The displacement of the fillet from the curve, before its signs are set. -/
def filletOffset (a : Float) : Point :=
  .polar (-60) (a / 3)

/-- The outline in a given orientation. -/
def orientedOutline (a h r : Float) (orientation : Orientation) : List Point :=
  (outline a h r).map (orientation.transform a h).apply

/-- The displacement of the fillet in a given orientation. -/
def orientedFillet (a h : Float) (orientation : Orientation) : Point :=
  (filletOffset a).scale (orientation.transform a h).filletSign

end LatticeSketch.Curve
