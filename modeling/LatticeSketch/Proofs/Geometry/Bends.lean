/-
# LatticeSketch.Proofs.Geometry.Bends -- how a curve lies and what it looks like

A curve turns towards a `Corner`: a site next to it on the left or on the right, in the row above or
below, alone or paired with the site straight above or below.  Corners are tried by rank, pairs before
single sites, upper before lower and left before right, and the first that is empty is taken
(`orientation_eq_find?`).  So a corner is taken exactly if it is empty and none of a lower rank is
(`orientation_eq_iff`), and a curve without an empty corner is drawn as it is
(`orientation_eq_straight_iff`).

The three choices of a corner decide on the map of the outline (`transform_eq_find?`) and on the side
of the fillet (`orientedFillet_orientation`).
The outline itself runs around a path of three sections: along their left sides, meeting each at its
end, and back along their right sides, each from its end to its start (`outline_eq_around`).
-/
import LatticeSketch.Geometry.Curve

namespace LatticeSketch.Curve

set_option autoImplicit false

/-! ## Corners -/

/-- A site that a curve turns towards: paired with the one straight above or below or alone, in the
upper or the lower row, on the left or on the right. -/
structure Corner where
  paired : Bool
  upper : Bool
  left : Bool
deriving DecidableEq, Repr

namespace Corner

/-- How many corners are tried before this one. -/
def rank (corner : Corner) : Nat :=
  (if corner.paired then 0 else 4) + (if corner.upper then 0 else 2) + if corner.left then 0 else 1

/-- All corners in the order in which they are tried. -/
def ranked : List Corner :=
  [true, false].flatMap fun paired => [true, false].flatMap fun upper =>
    [true, false].map fun left => ⟨paired, upper, left⟩

/-- Whether the sites of a corner are empty. -/
def isEmpty (around : Surroundings) (corner : Corner) : Bool :=
  let straight := if corner.upper then around.up else around.down
  let aside :=
    if corner.upper then if corner.left then around.upLeft else around.upRight
    else if corner.left then around.downLeft else around.downRight
  aside && (!corner.paired || straight)

/-- How a curve lies that turns towards a corner. -/
def orientation : Corner → Orientation
  | ⟨true, true, true⟩ => .upLeftAndUp
  | ⟨true, true, false⟩ => .upAndUpRight
  | ⟨true, false, true⟩ => .downLeftAndDown
  | ⟨true, false, false⟩ => .downAndDownRight
  | ⟨false, true, true⟩ => .upLeft
  | ⟨false, true, false⟩ => .upRight
  | ⟨false, false, true⟩ => .downLeft
  | ⟨false, false, false⟩ => .downRight

theorem mem_ranked (corner : Corner) : corner ∈ ranked := by
  obtain ⟨paired, upper, left⟩ := corner
  cases paired <;> cases upper <;> cases left <;> decide

theorem sorted_ranked : ranked.Pairwise fun first second => first.rank < second.rank := by
  decide

theorem orientation_injective {first second : Corner}
    (same : first.orientation = second.orientation) : first = second := by
  obtain ⟨paired, upper, left⟩ := first
  obtain ⟨paired', upper', left'⟩ := second
  cases paired <;> cases upper <;> cases left <;> cases paired' <;> cases upper' <;>
    cases left' <;> first | rfl | cases same

theorem orientation_ne_straight (corner : Corner) : corner.orientation ≠ .straight := by
  obtain ⟨paired, upper, left⟩ := corner
  cases paired <;> cases upper <;> cases left <;> decide

/-- The first empty corner is the one of the lowest rank. -/
theorem find?_eq_some_iff (around : Surroundings) (corner : Corner) :
    ranked.find? (isEmpty around) = some corner ↔
      corner.isEmpty around = true ∧
        ∀ other : Corner, other.rank < corner.rank → other.isEmpty around = false := by
  -- in the list stand the corners of lower rank before a corner, and those of higher rank behind it
  have place : ∀ {before behind : List Corner}, ranked = before ++ corner :: behind →
      ∀ other, other ∈ before ↔ other.rank < corner.rank := by
    intro before behind split other
    have sorted := sorted_ranked
    rw [split, List.pairwise_append, List.pairwise_cons] at sorted
    obtain ⟨-, ⟨above, -⟩, below⟩ := sorted
    refine ⟨fun member => below other member corner (by simp), fun lower => ?_⟩
    have listed := mem_ranked other
    rw [split, List.mem_append, List.mem_cons] at listed
    rcases listed with member | rfl | member
    · exact member
    · exact absurd lower (Nat.lt_irrefl _)
    · exact absurd lower (Nat.lt_asymm (above other member))
  rw [List.find?_eq_some_iff_append]
  refine and_congr_right fun _ => ⟨?_, fun free => ?_⟩
  · rintro ⟨before, behind, split, free⟩ other lower
    simpa using free other ((place split other).2 lower)
  · obtain ⟨before, behind, split⟩ := List.append_of_mem (mem_ranked corner)
    refine ⟨before, behind, split, fun other member => ?_⟩
    simpa using free other ((place split other).1 member)

end Corner

/-! ## Orientations -/

/-- A curve turns towards the first empty corner. -/
theorem orientation_eq_find? (around : Surroundings) :
    around.orientation =
      ((Corner.ranked.find? (Corner.isEmpty around)).map Corner.orientation).getD .straight := by
  obtain ⟨upLeft, up, upRight, downLeft, down, downRight⟩ := around
  cases upLeft <;> cases up <;> cases upRight <;> cases downLeft <;> cases down <;>
    cases downRight <;> rfl

/-- It turns towards a corner exactly if that is empty and none of a lower rank is. -/
theorem orientation_eq_iff (around : Surroundings) (corner : Corner) :
    around.orientation = corner.orientation ↔
      corner.isEmpty around = true ∧
        ∀ other : Corner, other.rank < corner.rank → other.isEmpty around = false := by
  rw [← Corner.find?_eq_some_iff, orientation_eq_find?]
  cases Corner.ranked.find? (Corner.isEmpty around) with
  | none => exact iff_of_false (corner.orientation_ne_straight ·.symm) nofun
  | some first =>
      constructor
      · exact fun same => congrArg some (Corner.orientation_injective same)
      · rintro ⟨rfl⟩
        rfl

/-- It is drawn as it is exactly if no site on the left or on the right is empty; one straight above
or below selects nothing on its own. -/
theorem orientation_eq_straight_iff (around : Surroundings) :
    around.orientation = .straight ↔
      around.upLeft = false ∧ around.upRight = false ∧ around.downLeft = false ∧
        around.downRight = false := by
  obtain ⟨upLeft, up, upRight, downLeft, down, downRight⟩ := around
  cases upLeft <;> cases up <;> cases upRight <;> cases downLeft <;> cases down <;>
    cases downRight <;> decide

/-- The name of an orientation spells out the sites that selected it. -/
theorem name_orientation (corner : Corner) :
    corner.orientation.name =
      let straight := if corner.upper then "Up" else "Down"
      let aside := straight ++ if corner.left then "Left" else "Right"
      if !corner.paired then aside
      else if corner.left then aside ++ "And" ++ straight
      else straight ++ "And" ++ aside := by
  obtain ⟨paired, upper, left⟩ := corner
  cases paired <;> cases upper <;> cases left <;> rfl

/-! ## Maps -/

/-- The map of a curve that turns towards a corner.  A pair turns the outline round from left to right;
it is turned upside down for a pair on the upper left or the lower right and for a single site on the
upper right or the lower left.  Then it is moved against the direction it runs in, by two sites for a
pair on the right and a single site on the left, otherwise by one and a half and by a row towards the
corner.  The fillet is turned away from the corner. -/
def Corner.transform (a h : Float) (corner : Corner) : Transform where
  scale :=
    ⟨if corner.paired then -1 else 1,
      if (corner.upper == corner.left) == corner.paired then -1 else 1⟩
  offset :=
    if corner.paired != corner.left then ⟨if corner.paired then 2 * a else -2 * a, 0⟩
    else ⟨if corner.paired then 1.5 * a else -1.5 * a, if corner.upper then h else -h⟩
  filletSign := ⟨if corner.left then 1 else -1, if corner.upper then 1 else -1⟩

theorem transform_orientation (a h : Float) (corner : Corner) :
    corner.orientation.transform a h = corner.transform a h := by
  obtain ⟨paired, upper, left⟩ := corner
  cases paired <;> cases upper <;> cases left <;> rfl

/-- The outline is mapped as the first empty corner says, and by the identity if there is none. -/
theorem transform_eq_find? (a h : Float) (around : Surroundings) :
    around.orientation.transform a h =
      (Corner.ranked.find? (Corner.isEmpty around)).elim ⟨⟨1, 1⟩, ⟨0, 0⟩, ⟨1, 1⟩⟩
        (Corner.transform a h) := by
  rw [orientation_eq_find?]
  cases Corner.ranked.find? (Corner.isEmpty around) with
  | none => rfl
  | some corner => exact transform_orientation a h corner

/-- The fillet is a third of a lattice constant away, on the other side of the curve than the corner:
below it to the right for a corner on the upper left. -/
theorem orientedFillet_orientation (a h : Float) (corner : Corner) :
    orientedFillet a h corner.orientation =
      (Point.polar (-60) (a / 3)).scale
        ⟨if corner.left then 1 else -1, if corner.upper then 1 else -1⟩ := by
  rw [orientedFillet, transform_orientation]
  rfl

/-! ## The outline -/

/-- A section of a path, with the direction that it runs in, in degrees. -/
structure Section where
  start : Point
  finish : Point
  direction : Int

/-- The path of a curve in its own frame: along a row, and then upwards in two steps. -/
def path (a h : Float) : List Section :=
  let first : Point := ⟨a, 0⟩
  let second : Point := ⟨2.5 * a, h⟩
  let third : Point := ⟨3 * a, 2 * h⟩
  [⟨⟨0, 0⟩, first, 0⟩, ⟨first, second, 30⟩, ⟨second, third, 60⟩]

/-- The vertex at a distance `r` from a joint of the path.  Straight above and below a joint of the
first section the distance is a coordinate, and no angle is computed. -/
def vertexAt (r : Float) (joint : Point) (angle : Int) : Point :=
  if angle = 90 then ⟨joint.x, r⟩
  else if angle = -90 then ⟨joint.x, -r⟩
  else joint.add (.polar (.ofInt angle) r)

/-- The outline begins above the start of the path and follows the left sides of its sections, which
meet at their ends; it comes back along the right sides, with two vertices for each section. -/
theorem outline_eq_around (a h r : Float) :
    outline a h r =
      vertexAt r ⟨0, 0⟩ 90 :: (path a h).map (fun part =>
        vertexAt r part.finish (part.direction + 90)) ++
      (path a h).reverse.flatMap (fun part =>
        [vertexAt r part.finish (part.direction - 90),
          vertexAt r part.start (part.direction - 90)]) := rfl

/-- Whichever way a curve lies, its outline has ten vertices. -/
theorem length_orientedOutline (a h r : Float) (orientation : Orientation) :
    (orientedOutline a h r orientation).length = 10 := by
  rw [orientedOutline, List.length_map, outline_eq_around]
  simp [path]

end LatticeSketch.Curve
