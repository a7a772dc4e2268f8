/-
# LatticeSketch.Geometry.Plane -- points and displacements in the device plane

Lengths are in metres.  The operations are the ones of double arithmetic in the order
written; none of them is regrouped.
-/
namespace LatticeSketch

set_option autoImplicit false

/-- A point of the plane, or a displacement. -/
structure Point where
  x : Float
  y : Float
deriving DecidableEq, Repr

namespace Point

/-- The displacement `b` added to `a`. -/
def add (a b : Point) : Point :=
  ⟨a.x + b.x, a.y + b.y⟩

/-- Each coordinate of `a` times that of `b`. -/
def scale (a b : Point) : Point :=
  ⟨a.x * b.x, a.y * b.y⟩

/-- The displacement of length `radius` in a direction given in degrees. -/
def polar (degrees radius : Float) : Point :=
  let angle := degrees * (3.14159265358979323846 / 180)
  ⟨angle.cos * radius, angle.sin * radius⟩

end Point

/-- The distance between two lattice rows, `a √3 / 2`. -/
def rowPitch (latticeConstant : Float) : Float :=
  latticeConstant * Float.sqrt 3 / 2

end LatticeSketch
