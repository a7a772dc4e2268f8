/-
# LatticeSketch.Proofs.Compiler.CellByCell -- what a compiled crystal is made of

`reference` says for every position of a lattice on its own what it contributes: its shapes
(`shapes`), a source or a monitor.  It refers to the drawing only, with an empty site at every
position outside, and knows no walk, no counter and no policy.

The walk of the compiler makes the same.  `Covers` says that a walk has made what the cells
taken in so far contribute; one visit extends it by its cell (`Covers.visit`) and a walk that
is not refused by all of its cells (`Covers.through`).  Hence whatever a compilation makes is
the reference (`compile_eq_reference`).
-/
import LatticeSketch.Compiler
import LatticeSketch.Proofs.Lattice.Cells

namespace LatticeSketch

set_option autoImplicit false

/-! ## The reference -/

namespace Site

def isCircle (site : Site) : Bool :=
  site matches .circle _

def isCurve (site : Site) : Bool :=
  site matches .curve

def isSource (site : Site) : Bool :=
  site matches .source

def isMonitor (site : Site) : Bool :=
  site matches .monitor

end Site

namespace CellByCell

/-- The place of a position: every other row is shifted by half a lattice step. -/
def place (crystal : Crystal) (row column : Nat) : Point where
  x :=
    if (row % 2 == 1) != crystal.grid.evenShifted then
      column.toFloat * crystal.latticeConstant + crystal.latticeConstant / 2
    else column.toFloat * crystal.latticeConstant
  y := row.toFloat * crystal.pitch

/-- Which of the six sites around a position are empty. -/
def surroundings (grid : Grid) (row column : Nat) : Curve.Surroundings where
  upLeft := (grid.siteAt (row + 1) (column - 1)).isEmpty
  up := (grid.siteAt (row + 1) column).isEmpty
  upRight := (grid.siteAt (row + 1) (column + 1)).isEmpty
  downLeft := (grid.siteAt (row - 1) (column - 1)).isEmpty
  down := (grid.siteAt (row - 1) column).isEmpty
  downRight := (grid.siteAt (row - 1) (column + 1)).isEmpty

/-- The polygon of a curve and then its fillet hole. -/
def curveShapes (crystal : Crystal) (row column : Nat) : List Directive :=
  let a := crystal.latticeConstant
  let center := place crystal row column
  let transform := (surroundings crystal.grid row column).orientation.transform a crystal.pitch
  [.polygon center ((Curve.outline a crystal.pitch (a * 0.38)).map transform.apply)
      crystal.depth "etch",
    .circle (center.add ((Curve.filletOffset a).scale transform.filletSign)) (a * 0.20) 0
      crystal.depth "etch"]

/-- The shapes of one cell. -/
def shapes (crystal : Crystal) (cell : Cell) : List Directive :=
  match cell.site with
  | .circle fraction =>
      [.circle (place crystal cell.row cell.column) (crystal.latticeConstant * fraction) 0
        crystal.depth "etch"]
  | .curve => curveShapes crystal cell.row cell.column
  | .junction | .source | .monitor | .empty => []

/-- The devices of a kind among cells, numbered from 1, each at its position. -/
def devices (kind : Site → Bool) (position : Cell → Point) (cells : List Cell) :
    List Placement :=
  ((cells.filter fun cell => kind cell.site).zipIdx 1).map fun entry =>
    ⟨entry.2, entry.1.row, entry.1.column, position entry.1⟩

/-- The sources among cells. -/
def sources (crystal : Crystal) : List Cell → List Placement :=
  devices Site.isSource fun cell => place crystal cell.row cell.column

/-- The monitors among cells, moved to where the crystal stands. -/
def monitors (crystal : Crystal) : List Cell → List Placement :=
  devices Site.isMonitor fun cell => (place crystal cell.row cell.column).add ⟨crystal.left, 0⟩

/-- What a crystal compiles to, one position after the other. -/
def reference (crystal : Crystal) : Compiled where
  stream := ⟨.deleteAll :: crystal.grid.drawnCells.flatMap (shapes crystal)⟩
  sources := sources crystal crystal.grid.drawnCells
  monitors := monitors crystal crystal.grid.drawnCells

section Devices

variable {kind : Site → Bool} (position : Cell → Point) (cells : List Cell) {cell : Cell}

theorem devices_concat (found : kind cell.site = true) :
    devices kind position (cells ++ [cell]) =
      devices kind position cells ++
        [⟨(devices kind position cells).length + 1, cell.row, cell.column, position cell⟩] := by
  simp [devices, List.filter_append, List.zipIdx_append, found, Nat.add_comm]

theorem devices_concat_of_not (other : kind cell.site = false) :
    devices kind position (cells ++ [cell]) = devices kind position cells := by
  simp [devices, List.filter_append, other]

end Devices

theorem length_shapes (crystal : Crystal) (cells : List Cell) :
    (cells.flatMap (shapes crystal)).length =
      (cells.countP fun cell => cell.site.isCircle) +
        2 * cells.countP fun cell => cell.site.isCurve := by
  induction cells with
  | nil => rfl
  | cons cell rest ih =>
      rw [List.flatMap_cons, List.length_append, ih, List.countP_cons, List.countP_cons]
      cases kind : cell.site <;>
        simp [shapes, curveShapes, Site.isCircle, Site.isCurve, kind] <;> omega

/-! ## The surroundings of a curve -/

section Surroundings

variable {boundary : Boundary} {grid : Grid} {matrix : Matrix} {row column : Nat}

/-- A look-up that is not refused says whether the drawn site is empty. -/
theorem emptyAt_eq_ok (built : grid.toMatrix = .ok matrix) {up right : Int} {empty : Bool}
    (found : boundary.emptyAt matrix row column up right = .ok empty) :
    empty = (grid.siteAt (row + up) (column + right)).isEmpty := by
  rw [← Grid.neighbour_of_toMatrix built]
  unfold Boundary.emptyAt at found
  cases site? : matrix.neighbour (row + up) (column + right) with
  | some site =>
      simp only [site?, Except.ok.injEq] at found
      exact found.symm
  | none =>
      cases boundary with
      | empty =>
          simp only [site?, Except.ok.injEq] at found
          exact found.symm
      | reject => simp [site?] at found

theorem ok_of_bind {ε α β : Type} {value : Except ε α} {next : α → Except ε β} {result : β}
    (made : value >>= next = .ok result) : ∃ middle, value = .ok middle ∧
      next middle = .ok result := by
  cases value with
  | error fault => cases made
  | ok middle => exact ⟨middle, rfl, made⟩

theorem surroundings_eq_ok (built : grid.toMatrix = .ok matrix) {around : Curve.Surroundings}
    (found : boundary.surroundings matrix row column = .ok around) :
    around = surroundings grid row column := by
  unfold Boundary.surroundings at found
  obtain ⟨upLeft, hUpLeft, found⟩ := ok_of_bind found
  obtain ⟨up, hUp, found⟩ := ok_of_bind found
  obtain ⟨upRight, hUpRight, found⟩ := ok_of_bind found
  obtain ⟨downLeft, hDownLeft, found⟩ := ok_of_bind found
  obtain ⟨down, hDown, found⟩ := ok_of_bind found
  obtain ⟨downRight, hDownRight, found⟩ := ok_of_bind found
  obtain rfl := (Except.ok.inj found).symm
  rw [emptyAt_eq_ok built hUpLeft, emptyAt_eq_ok built hUp, emptyAt_eq_ok built hUpRight,
    emptyAt_eq_ok built hDownLeft, emptyAt_eq_ok built hDown, emptyAt_eq_ok built hDownRight]
  simp [surroundings, Int.sub_eq_add_neg]

end Surroundings

/-! ## The walk -/

open Compiler

/-- A walk has made what the cells that it has taken in contribute, and its counters are the
numbers of devices found so far. -/
structure Covers (crystal : Crystal) (done : List Cell) (walk : Walk) : Prop where
  stream : walk.made.stream = ⟨.deleteAll :: done.flatMap (shapes crystal)⟩
  sourcesMade : walk.made.sources = sources crystal done
  monitorsMade : walk.made.monitors = monitors crystal done
  sourceCount : walk.compiler.sourceCount = (sources crystal done).length
  monitorCount : walk.compiler.monitorCount = (monitors crystal done).length

theorem covers_start (compiler : Compiler) (crystal : Crystal) :
    Covers crystal [] (Walk.start compiler) :=
  ⟨rfl, rfl, rfl, rfl, rfl⟩

section Walks

variable {crystal : Crystal} {matrix : Matrix} {done : List Cell} {walk : Walk}

/-- A cell without a device only adds its shapes. -/
theorem Covers.concat_plain (covers : Covers crystal done walk) {cell : Cell} {next : Walk}
    (source : cell.site.isSource = false) (monitor : cell.site.isMonitor = false)
    (compiler : next.compiler = walk.compiler)
    (made : next.made =
      { walk.made with
        stream := ⟨walk.made.stream.directives ++ shapes crystal cell⟩ }) :
    Covers crystal (done ++ [cell]) next := by
  have sameSources : sources crystal (done ++ [cell]) = sources crystal done :=
    devices_concat_of_not _ done source
  have sameMonitors :
      monitors crystal (done ++ [cell]) = monitors crystal done :=
    devices_concat_of_not _ done monitor
  refine ⟨?_, ?_, ?_, ?_, ?_⟩
  · rw [made, covers.stream, List.flatMap_append, List.flatMap_singleton]
    rfl
  · rw [made, sameSources]
    exact covers.sourcesMade
  · rw [made, sameMonitors]
    exact covers.monitorsMade
  · rw [compiler, sameSources]
    exact covers.sourceCount
  · rw [compiler, sameMonitors]
    exact covers.monitorCount

theorem position_of_toMatrix (built : crystal.grid.toMatrix = .ok matrix) (row column : Nat) :
    matrix.position row column crystal.latticeConstant crystal.pitch =
      place crystal row column := by
  obtain ⟨-, rfl⟩ := (Grid.toMatrix_eq_ok_iff _ matrix).1 built
  rfl

/-- A visit adds the contribution of its cell and nothing else. -/
theorem Covers.visit (built : crystal.grid.toMatrix = .ok matrix)
    (covers : Covers crystal done walk) {cell : Cell} {next : Walk}
    (visited : walk.visit crystal matrix cell = .ok next) :
    Covers crystal (done ++ [cell]) next := by
  unfold Walk.visit at visited
  rw [position_of_toMatrix built] at visited
  cases site : cell.site with
  | empty =>
      simp only [site, Except.ok.injEq] at visited
      subst visited
      refine covers.concat_plain (by simp [site, Site.isSource]) (by simp [site, Site.isMonitor])
        rfl ?_
      simp [shapes, site]
  | junction =>
      simp only [site, Except.ok.injEq] at visited
      subst visited
      refine covers.concat_plain (by simp [site, Site.isSource]) (by simp [site, Site.isMonitor])
        rfl ?_
      simp [shapes, site, Walk.report]
  | circle fraction =>
      simp only [site, Except.ok.injEq] at visited
      subst visited
      refine covers.concat_plain (by simp [site, Site.isSource]) (by simp [site, Site.isMonitor])
        rfl ?_
      simp [shapes, site, Walk.addShape, Stream.push, Crystal.hole, etchMaterial]
  | curve =>
      simp only [site] at visited
      cases looked : walk.compiler.boundary.surroundings matrix cell.row cell.column with
      | error fault => simp [looked] at visited
      | ok around =>
          simp only [looked, Except.ok.injEq] at visited
          subst visited
          obtain rfl := surroundings_eq_ok built looked
          refine covers.concat_plain (by simp [site, Site.isSource])
            (by simp [site, Site.isMonitor]) rfl ?_
          simp [shapes, site, curveShapes, Walk.addShape, Walk.report, Stream.push, Crystal.hole,
            Crystal.curvePolygon, Crystal.curveFillet, Curve.orientedOutline,
            Curve.orientedFillet, Site.curveRadius, Site.filletRadius, etchMaterial]
  | source =>
      simp only [site, Except.ok.injEq] at visited
      subst visited
      have more : sources crystal (done ++ [cell]) = _ :=
        devices_concat _ done (by simp [site, Site.isSource])
      have same : monitors crystal (done ++ [cell]) = monitors crystal done :=
        devices_concat_of_not _ done (by simp [site, Site.isMonitor])
      refine ⟨?_, ?_, ?_, ?_, ?_⟩
      · simpa [shapes, site, Walk.addSource] using covers.stream
      · rw [more, Walk.addSource, covers.sourceCount, covers.sourcesMade]
        rfl
      · rw [same]
        exact covers.monitorsMade
      · rw [more, Walk.addSource, covers.sourceCount, List.length_append]
        rfl
      · rw [same]
        exact covers.monitorCount
  | monitor =>
      simp only [site, Except.ok.injEq] at visited
      subst visited
      have more : monitors crystal (done ++ [cell]) = _ :=
        devices_concat _ done (by simp [site, Site.isMonitor])
      have same : sources crystal (done ++ [cell]) = sources crystal done :=
        devices_concat_of_not _ done (by simp [site, Site.isSource])
      refine ⟨?_, ?_, ?_, ?_, ?_⟩
      · simpa [shapes, site, Walk.addMonitor] using covers.stream
      · rw [same]
        exact covers.sourcesMade
      · rw [more, Walk.addMonitor, covers.monitorCount, covers.monitorsMade]
        rfl
      · rw [same]
        exact covers.sourceCount
      · rw [more, Walk.addMonitor, covers.monitorCount, List.length_append]
        rfl

theorem Covers.through (built : crystal.grid.toMatrix = .ok matrix)
    (covers : Covers crystal done walk) {cells : List Cell} {last : Walk}
    (went : walk.through crystal matrix cells = (last, none)) :
    Covers crystal (done ++ cells) last := by
  induction cells generalizing done walk with
  | nil =>
      rw [Walk.through] at went
      obtain rfl : walk = last := congrArg Prod.fst went
      rwa [List.append_nil]
  | cons cell rest ih =>
      rw [Walk.through] at went
      cases visited : walk.visit crystal matrix cell with
      | error fault => simp [visited] at went
      | ok next =>
          simp only [visited] at went
          have onward := ih (covers.visit built visited) went
          rwa [List.append_assoc] at onward

end Walks

/-- A compilation that succeeds has made the reference. -/
theorem eq_reference_of_compile {compiler : Compiler} {crystal : Crystal} {compiled : Compiled}
    (made : (compiler.compile crystal).result = .ok compiled) : compiled = reference crystal := by
  unfold compile at made
  cases built : crystal.grid.toMatrix with
  | error fault => simp [built] at made
  | ok matrix =>
      simp only [built] at made
      rcases went : (Walk.start compiler).through crystal matrix matrix.cells with ⟨last, fault?⟩
      cases fault? with
      | some fault => simp [went] at made
      | none =>
          simp only [went, Except.ok.injEq] at made
          have covers := (covers_start compiler crystal).through built went
          rw [List.nil_append, Grid.cells_of_toMatrix built] at covers
          obtain ⟨stream, sources, monitors, -, -⟩ := covers
          rw [← made]
          unfold reference
          rw [← stream, ← sources, ← monitors]

/-- Whatever a compilation makes is what the positions of the lattice contribute one by one, from
the bottom row upwards and from left to right. -/
theorem compile_eq_reference {compiler : Compiler} {crystal : Crystal} {compiled : Compiled}
    (made : (compiler.compile crystal).result = .ok compiled) :
    compiled = reference crystal ∧
      compiled.stream.size = 1 + (crystal.grid.drawnCells.countP fun cell => cell.site.isCircle) +
        2 * crystal.grid.drawnCells.countP fun cell => cell.site.isCurve := by
  have whole := eq_reference_of_compile made
  refine ⟨whole, ?_⟩
  rw [whole, reference, Stream.size, List.length_cons, length_shapes]
  omega

/-- A lattice with a curve at its edge, two holes, a source and a monitor. -/
theorem compile_eq_reference_curved :
    ∃ compiled,
      (Compiler.compile { boundary := .empty }
        ⟨"pc", 1, 1, Grid.ofText "0 c s \n m 1 .\n", 2⟩).result = .ok compiled ∧
      compiled = reference ⟨"pc", 1, 1, Grid.ofText "0 c s \n m 1 .\n", 2⟩ ∧
      compiled.stream.size = 5 := by
  have accepted : (Compiler.compile { boundary := .empty }
      ⟨"pc", 1, 1, Grid.ofText "0 c s \n m 1 .\n", 2⟩).result.isOk = true := by
    decide +kernel
  cases made : (Compiler.compile { boundary := .empty }
      ⟨"pc", 1, 1, Grid.ofText "0 c s \n m 1 .\n", 2⟩).result with
  | error fault => simp [made, Except.isOk, Except.toBool] at accepted
  | ok compiled =>
      obtain ⟨same, size⟩ := compile_eq_reference made
      have counts : 1 + (Grid.ofText "0 c s \n m 1 .\n").drawnCells.countP (fun cell =>
            cell.site.isCircle) +
          2 * (Grid.ofText "0 c s \n m 1 .\n").drawnCells.countP (fun cell =>
            cell.site.isCurve) = 5 := by
        decide +kernel
      exact ⟨compiled, rfl, same, size.trans counts⟩

end CellByCell

end LatticeSketch
