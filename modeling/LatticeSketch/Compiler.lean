/-
# LatticeSketch.Compiler -- from a lattice to shapes and devices

`Compiler.compile` walks the cells of a lattice, bottom row first and from left to right.
A circle becomes one hole; a curve becomes a polygon and a fillet hole, oriented by the
six sites around it; sources and monitors become placements, each kind numbered from 1 in
the order of the walk; other sites leave nothing.

The `Compiler` is a value that goes through a series of compilations: it holds the policy
for curves at the edge and the numbers given out so far.  Every compilation starts the
numbering afresh (`restarted`), so its outcome depends on the policy and the crystal only
(`compile_congr`).  The walk stops at the first curve that the policy refuses, and
the events reported up to there are kept.
-/
import LatticeSketch.Crystal
import LatticeSketch.Event
import LatticeSketch.Geometry.Directive
import LatticeSketch.Lattice.Matrix

namespace LatticeSketch

set_option autoImplicit false

/-- What a curve at the edge makes of the sites that lie outside. -/
inductive Boundary where
  /-- They count as empty. -/
  | empty
  /-- The lattice is refused. -/
  | reject
deriving DecidableEq, Repr

/-- A numbered source or monitor. -/
structure Placement where
  index : Nat
  row : Nat
  column : Nat
  position : Point
deriving DecidableEq, Repr

/-- What a crystal compiles to. -/
structure Compiled where
  stream : Stream
  sources : List Placement
  monitors : List Placement
deriving DecidableEq, Repr

/-- The policy of a series of compilations and the numbers given out in the latest one. -/
structure Compiler where
  boundary : Boundary
  sourceCount : Nat := 0
  monitorCount : Nat := 0
deriving DecidableEq, Repr

/-- The place of a site: columns are `a` apart, rows `h`, and a shifted row starts at `a / 2`. -/
def Matrix.position (matrix : Matrix) (row column : Nat) (a h : Float) : Point where
  x := if matrix.isShifted row then column.toFloat * a + a / 2 else column.toFloat * a
  y := row.toFloat * h

/-- What is reported about a lattice before its cells are looked at. -/
def Matrix.warnings (matrix : Matrix) : List Event :=
  if matrix.unknownCount = 0 then [] else [.unknownSymbols matrix.unknownCount]

namespace Boundary

/-- Whether the site `up` rows above and `right` columns to the right of a curve is empty. -/
def emptyAt (boundary : Boundary) (matrix : Matrix) (row column : Nat) (up right : Int) :
    Except Fault Bool :=
  match matrix.neighbour (row + up) (column + right), boundary with
  | some site, _ => .ok site.isEmpty
  | none, empty => .ok true
  | none, reject => .error (.outsideNeighbour row column)

/-- The sites around the curve at `row` and `column`. -/
def surroundings (boundary : Boundary) (matrix : Matrix) (row column : Nat) :
    Except Fault Curve.Surroundings := do
  let upLeft ← boundary.emptyAt matrix row column 1 (-1)
  let up ← boundary.emptyAt matrix row column 1 0
  let upRight ← boundary.emptyAt matrix row column 1 1
  let downLeft ← boundary.emptyAt matrix row column (-1) (-1)
  let down ← boundary.emptyAt matrix row column (-1) 0
  let downRight ← boundary.emptyAt matrix row column (-1) 1
  return ⟨upLeft, up, upRight, downLeft, down, downRight⟩

end Boundary

/-- An etched hole at `center`. -/
def Crystal.hole (crystal : Crystal) (center : Point) (radius : Float) : Directive :=
  .circle center (crystal.latticeConstant * radius) 0 crystal.depth etchMaterial

/-- The polygon of a curve at `center`. -/
def Crystal.curvePolygon (crystal : Crystal) (center : Point)
    (orientation : Curve.Orientation) : Directive :=
  .polygon center
    (Curve.orientedOutline crystal.latticeConstant crystal.pitch
      (crystal.latticeConstant * Site.curveRadius) orientation)
    crystal.depth etchMaterial

/-- The fillet hole of a curve at `center`. -/
def Crystal.curveFillet (crystal : Crystal) (center : Point)
    (orientation : Curve.Orientation) : Directive :=
  crystal.hole
    (center.add (Curve.orientedFillet crystal.latticeConstant crystal.pitch orientation))
    Site.filletRadius

namespace Compiler

/-- The compiler with its numbering started afresh. -/
def restarted (compiler : Compiler) : Compiler :=
  { boundary := compiler.boundary }

/-- A walk under way: the compiler, what is made so far and what was reported. -/
structure Walk where
  compiler : Compiler
  made : Compiled
  log : List Event
deriving DecidableEq, Repr

namespace Walk

/-- The walk before its first cell. -/
def start (compiler : Compiler) : Walk :=
  ⟨compiler.restarted, ⟨.start, [], []⟩, []⟩

/-- Appends a shape to the stream. -/
def addShape (walk : Walk) (directive : Directive) : Walk :=
  { walk with made.stream := walk.made.stream.push directive }

/-- Appends an event to the log. -/
def report (walk : Walk) (event : Event) : Walk :=
  { walk with log := walk.log ++ [event] }

/-- Numbers the source of a cell. -/
def addSource (walk : Walk) (cell : Cell) (position : Point) : Walk :=
  let index := walk.compiler.sourceCount + 1
  { walk with
    compiler.sourceCount := index
    made.sources := walk.made.sources ++ [⟨index, cell.row, cell.column, position⟩] }

/-- Numbers the monitor of a cell. -/
def addMonitor (walk : Walk) (cell : Cell) (position : Point) : Walk :=
  let index := walk.compiler.monitorCount + 1
  { walk with
    compiler.monitorCount := index
    made.monitors := walk.made.monitors ++ [⟨index, cell.row, cell.column, position⟩] }

/-- Takes in one cell; a curve may be refused. -/
def visit (crystal : Crystal) (matrix : Matrix) (walk : Walk) (cell : Cell) :
    Except Fault Walk :=
  let position := matrix.position cell.row cell.column crystal.latticeConstant crystal.pitch
  match cell.site with
  | .empty => .ok walk
  | .circle radius => .ok (walk.addShape (crystal.hole position radius))
  | .curve =>
      match walk.compiler.boundary.surroundings matrix cell.row cell.column with
      | .error fault => .error fault
      | .ok around =>
          let orientation := around.orientation
          .ok (((walk.report (.curveOriented cell.row cell.column orientation)).addShape
            (crystal.curvePolygon position orientation)).addShape
            (crystal.curveFillet position orientation))
  | .source => .ok (walk.addSource cell position)
  | .monitor => .ok (walk.addMonitor cell (position.add ⟨crystal.left, 0⟩))
  | .junction => .ok (walk.report (.junctionSkipped cell.row cell.column))

/-- Takes in cells up to the first that is refused. -/
def through (crystal : Crystal) (matrix : Matrix) (walk : Walk) :
    List Cell → Walk × Option Fault
  | [] => (walk, none)
  | cell :: rest =>
      match walk.visit crystal matrix cell with
      | .error fault => (walk, some fault)
      | .ok next => next.through crystal matrix rest

end Walk

/-- The outcome of a compilation, the compiler as it leaves it and what was reported. -/
structure Report where
  result : Except Fault Compiled
  compiler : Compiler
  log : List Event

/-- Compiles a crystal at the place it has. -/
def compile (compiler : Compiler) (crystal : Crystal) : Report :=
  match crystal.grid.toMatrix with
  | .error fault => ⟨.error fault, compiler.restarted, []⟩
  | .ok matrix =>
      match (Walk.start compiler).through crystal matrix matrix.cells with
      | (walk, some fault) => ⟨.error fault, walk.compiler, matrix.warnings ++ walk.log⟩
      | (walk, none) =>
          ⟨.ok walk.made, walk.compiler, matrix.warnings ++ walk.log ++
            [.compiled crystal.name walk.made.stream.size walk.made.sources.length
              walk.made.monitors.length]⟩

/-- Compiles crystals one after the other with one compiler. -/
def compileEach (compiler : Compiler) : List Crystal → List Report
  | [] => []
  | crystal :: rest =>
      let report := compiler.compile crystal
      report :: report.compiler.compileEach rest

/-- What a compilation makes depends on the compiler through its policy only. -/
theorem compile_congr {first second : Compiler} (same : first.boundary = second.boundary)
    (crystal : Crystal) : first.compile crystal = second.compile crystal := by
  have restart : first.restarted = second.restarted := by simp [restarted, same]
  simp only [compile, Walk.start, restart]

end Compiler

end LatticeSketch
