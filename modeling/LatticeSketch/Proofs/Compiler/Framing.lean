/-
# LatticeSketch.Proofs.Compiler.Framing -- what lies outside of a lattice counts as empty

The lenient policy takes the sites outside of a lattice for empty ones.  To draw them is the same: a
frame of empty sites adds no shape and no device, moves the cells of the lattice without changing
their surroundings (`surroundings_of_frames`), and leaves no curve at the edge, so the strict policy
has nothing to refuse (`firstEdgeCurve?_of_frames`).

Hence a framed lattice compiles under the strict policy to what the lattice compiles to under the
lenient one, but for the places of its shapes and devices (`compile_framed`).
-/
import LatticeSketch.Proofs.Compiler.Edge
import LatticeSketch.Proofs.Lattice.Framing

namespace LatticeSketch

set_option autoImplicit false

/-! ## Shapes without their places -/

namespace Directive

/-- The directive with its shape moved to the origin. -/
def atOrigin : Directive → Directive
  | deleteAll => deleteAll
  | circle _ radius z depth material => circle ⟨0, 0⟩ radius z depth material
  | polygon _ vertices depth material => polygon ⟨0, 0⟩ vertices depth material

end Directive

namespace Stream

/-- Circles have their radii wherever they are. -/
theorem map_snd_circles (stream : Stream) :
    stream.circles.map Prod.snd = (circles ⟨stream.directives.map .atOrigin⟩).map Prod.snd := by
  obtain ⟨directives⟩ := stream
  induction directives with
  | nil => rfl
  | cons directive more ih => cases directive <;> simp_all [circles, Directive.atOrigin]

/-- Polygons have their vertices wherever they are. -/
theorem map_snd_polygons (stream : Stream) :
    stream.polygons.map Prod.snd = (polygons ⟨stream.directives.map .atOrigin⟩).map Prod.snd := by
  obtain ⟨directives⟩ := stream
  induction directives with
  | nil => rfl
  | cons directive more ih => cases directive <;> simp_all [polygons, Directive.atOrigin]

end Stream

/-- The number of a device and the row and the column of its site. -/
def Placement.site (placement : Placement) : Nat × Nat × Nat :=
  (placement.index, placement.row, placement.column)

/-- The number of a device and the row and the column that its site has in a frame. -/
def Placement.siteInFrame (placement : Placement) : Nat × Nat × Nat :=
  (placement.index, placement.row + 1, placement.column + 1)

namespace CellByCell

/-! ## Occupied cells -/

/-- Only occupied cells have shapes. -/
theorem flatMap_shapes_occupied (crystal : Crystal) :
    crystal.grid.drawnCells.flatMap (shapes crystal) =
      crystal.grid.occupied.flatMap (shapes crystal) := by
  unfold Grid.occupied
  induction crystal.grid.drawnCells with
  | nil => rfl
  | cons cell more ih =>
      rw [List.flatMap_cons, ih]
      cases site : cell.site with
      | empty => simp [site, shapes, Site.isEmpty]
      | _ => simp [site, Site.isEmpty]

/-- Only occupied cells have devices. -/
theorem devices_occupied {kind : Site → Bool} (vacant : kind .empty = false)
    (position : Cell → Point) (grid : Grid) :
    devices kind position grid.drawnCells = devices kind position grid.occupied := by
  have same : grid.occupied.filter (fun cell => kind cell.site) =
      grid.drawnCells.filter fun cell => kind cell.site := by
    rw [Grid.occupied, List.filter_filter]
    refine List.filter_congr fun cell _ => ?_
    cases site : cell.site with
    | empty => simp [vacant]
    | _ => simp [Site.isEmpty]
  rw [devices, devices, same]

/-- Cells that are moved have the devices of a kind that they had, moved. -/
theorem devices_map_inFrame (kind : Site → Bool) (position position' : Cell → Point)
    (cells : List Cell) :
    (devices kind position (cells.map Cell.inFrame)).map Placement.site =
      (devices kind position' cells).map Placement.siteInFrame := by
  have kept : (cells.map Cell.inFrame).filter (fun cell => kind cell.site) =
      (cells.filter fun cell => kind cell.site).map Cell.inFrame := by
    rw [List.filter_map]
    rfl
  rw [devices, devices, kept, List.zipIdx_map, List.map_map, List.map_map, List.map_map]
  rfl

/-! ## Frames -/

section Frames

variable {crystal : Crystal} {frame : Grid} (frames : frame.Frames crystal.grid)

include frames

/-- A curve has the surroundings in a frame that it has without. -/
theorem surroundings_of_frames (row column : Nat) :
    surroundings frame (row + 1) (column + 1) = surroundings crystal.grid row column := by
  have above : ((row + 1 : Nat) : Int) + 1 = ((row : Int) + 1) + 1 := by omega
  have below : ((row + 1 : Nat) : Int) - 1 = ((row : Int) - 1) + 1 := by omega
  have left : ((column + 1 : Nat) : Int) - 1 = ((column : Int) - 1) + 1 := by omega
  have middle : ((column + 1 : Nat) : Int) = (column : Int) + 1 := by omega
  have right : ((column + 1 : Nat) : Int) + 1 = ((column : Int) + 1) + 1 := by omega
  unfold surroundings
  rw [above, below, left, right, middle]
  simp only [Grid.siteAt_of_frames frames]

/-- A cell has the shapes in a frame that it has without, at another place. -/
theorem shapes_inFrame (cell : Cell) :
    (shapes { crystal with grid := frame } cell.inFrame).map Directive.atOrigin =
      (shapes crystal cell).map Directive.atOrigin := by
  have around := surroundings_of_frames frames cell.row cell.column
  have same : cell.inFrame.site = cell.site := rfl
  unfold shapes
  rw [same]
  cases cell.site with
  | curve =>
      simp only [curveShapes, Cell.inFrame, around, List.map_cons, List.map_nil,
        Directive.atOrigin]
      rfl
  | circle => simp only [List.map_cons, List.map_nil, Directive.atOrigin]
  | junction | source | monitor | empty => rfl

/-- A frame leaves no curve at the edge. -/
theorem firstEdgeCurve?_of_frames (checked : crystal.grid.check = .ok ()) :
    frame.firstEdgeCurve? = none := by
  rw [Grid.firstEdgeCurve?, List.find?_eq_none]
  intro cell drawn
  rw [Bool.and_eq_true, not_and, Bool.not_eq_true]
  intro curve
  have occupied : cell ∈ frame.occupied := by
    refine List.mem_filter.2 ⟨drawn, ?_⟩
    cases site : cell.site <;> simp_all [Site.isCurve, Site.isEmpty]
  rw [Grid.occupied_of_frames frames checked] at occupied
  obtain ⟨inner, member, rfl⟩ := List.mem_map.1 occupied
  obtain ⟨inRows, inColumns⟩ := Grid.mem_drawnCells (List.mem_filter.1 member).1
  have high := Grid.height_of_frames frames
  have wide := Grid.columns_of_frames frames checked
  simp only [Grid.onEdge, Cell.inFrame, Bool.or_eq_false_iff, beq_eq_false_iff_ne]
  omega

section Reference

variable (checked : crystal.grid.check = .ok ())

include checked

/-- The reference of a framed crystal has the shapes of the crystal at other places. -/
theorem stream_reference_of_frames :
    (reference { crystal with grid := frame }).stream.directives.map Directive.atOrigin =
      (reference crystal).stream.directives.map Directive.atOrigin := by
  have shapes := flatMap_shapes_occupied { crystal with grid := frame }
  have occupied : ({ crystal with grid := frame } : Crystal).grid.occupied = _ :=
    Grid.occupied_of_frames frames checked
  rw [occupied, List.flatMap_map] at shapes
  simp only [reference, shapes, flatMap_shapes_occupied crystal, List.map_cons, List.map_flatMap,
    shapes_inFrame frames]

/-- The devices of a framed crystal are numbered like those of the crystal. -/
theorem devices_of_frames {kind : Site → Bool} (vacant : kind .empty = false)
    (position position' : Cell → Point) :
    (devices kind position frame.drawnCells).map Placement.site =
      (devices kind position' crystal.grid.drawnCells).map Placement.siteInFrame := by
  rw [devices_occupied vacant, devices_occupied vacant, Grid.occupied_of_frames frames checked,
    devices_map_inFrame]

theorem sources_reference_of_frames :
    (reference { crystal with grid := frame }).sources.map Placement.site =
      (reference crystal).sources.map Placement.siteInFrame := by
  simp only [reference, sources]
  exact devices_of_frames frames checked rfl _ _

theorem monitors_reference_of_frames :
    (reference { crystal with grid := frame }).monitors.map Placement.site =
      (reference crystal).monitors.map Placement.siteInFrame := by
  simp only [reference, monitors]
  exact devices_of_frames frames checked rfl _ _

end Reference

end Frames

end CellByCell

namespace Compiler

open CellByCell (reference)

/-- A crystal with rows of one width, compiled under the lenient policy, and the same crystal in any
frame of empty sites, compiled under the strict one.  Both compile, to the same directives but for
the places of their shapes, so with the same radii and lists of vertices in the same order, and
to devices with the same numbers at the same sites, which are one row higher and one column further
on in the frame.  The rows of the frame are shifted where those of the lattice are.  There is a text
that draws such a frame. -/
theorem compile_framed (compiler : Compiler) {crystal : Crystal}
    (rectangular : ∀ first ∈ crystal.grid.rows, ∀ second ∈ crystal.grid.rows,
      first.length = second.length) :
    (∃ text, (Grid.ofText text).Frames crystal.grid) ∧
    ∀ frame : Grid, frame.Frames crystal.grid → ∃ inner outer matrix framed,
      ({ compiler with boundary := .empty }.compile crystal).result = .ok inner ∧
      ({ compiler with boundary := .reject }.compile { crystal with grid := frame }).result =
        .ok outer ∧
      outer.stream.directives.map Directive.atOrigin =
        inner.stream.directives.map Directive.atOrigin ∧
      outer.stream.circles.map Prod.snd = inner.stream.circles.map Prod.snd ∧
      outer.stream.polygons.map Prod.snd = inner.stream.polygons.map Prod.snd ∧
      outer.sources.map Placement.site = inner.sources.map Placement.siteInFrame ∧
      outer.monitors.map Placement.site = inner.monitors.map Placement.siteInFrame ∧
      crystal.grid.toMatrix = .ok matrix ∧ frame.toMatrix = .ok framed ∧
      ∀ row, framed.isShifted (row + 1) = matrix.isShifted row := by
  refine ⟨⟨_, crystal.grid.frames_framed⟩, ?_⟩
  intro frame frames
  have checked := Grid.check_of_rectangular rectangular
  have checked' := Grid.check_of_frames frames checked
  have strict := result_compile_strict compiler
    (show ({ crystal with grid := frame } : Crystal).grid.check = .ok () from checked')
  have edge : ({ crystal with grid := frame } : Crystal).grid.firstEdgeCurve? = none :=
    CellByCell.firstEdgeCurve?_of_frames frames checked
  rw [edge] at strict
  have stream := CellByCell.stream_reference_of_frames frames checked
  refine ⟨reference crystal, reference { crystal with grid := frame },
    ⟨crystal.grid.rows.reverse, crystal.grid.evenShifted⟩, ⟨frame.rows.reverse, frame.evenShifted⟩,
    result_compile_lenient compiler checked, strict, stream, ?_, ?_,
    CellByCell.sources_reference_of_frames frames checked,
    CellByCell.monitors_reference_of_frames frames checked,
    (Grid.toMatrix_eq_ok_iff _ _).2 ⟨checked, rfl⟩, (Grid.toMatrix_eq_ok_iff _ _).2 ⟨checked', rfl⟩,
    ?_⟩
  · rw [Stream.map_snd_circles, stream, ← Stream.map_snd_circles]
  · rw [Stream.map_snd_polygons, stream, ← Stream.map_snd_polygons]
  · intro row
    simp only [Matrix.isShifted, frames.evenShifted]
    rcases Nat.mod_two_eq_zero_or_one row with even | odd
    · have next : (row + 1) % 2 = 1 := by omega
      rw [even, next]
      cases crystal.grid.evenShifted <;> rfl
    · have next : (row + 1) % 2 = 0 := by omega
      rw [odd, next]
      cases crystal.grid.evenShifted <;> rfl

/-- A lattice with curves in two corners, which the strict policy refuses, and the text of a frame
around it. -/
theorem compile_framed_corners :
    let crystal : Crystal := ⟨"pc", 1, 1, Grid.ofText "c 0 s \n 0 m c\n", 0⟩
    let frame := Grid.ofText " . . . . .\n. c 0 s . \n . 0 m c .\n. . . . . \n"
    ¬ (∃ compiled, (compile { boundary := .reject } crystal).result = .ok compiled) ∧
    frame.Frames crystal.grid ∧
    ∃ inner outer, (compile { boundary := .empty } crystal).result = .ok inner ∧
      (compile { boundary := .reject } { crystal with grid := frame }).result = .ok outer ∧
      outer.stream.polygons.map Prod.snd = inner.stream.polygons.map Prod.snd ∧
      outer.monitors.map Placement.site = inner.monitors.map Placement.siteInFrame := by
  intro crystal frame
  have rectangular : ∀ first ∈ crystal.grid.rows, ∀ second ∈ crystal.grid.rows,
      first.length = second.length := by
    decide +kernel
  have frames : frame.Frames crystal.grid := ⟨by decide +kernel, by decide +kernel⟩
  refine ⟨?_, frames, ?_⟩
  · rintro ⟨compiled, made⟩
    have refused : (compile { boundary := .reject } crystal).result =
        .error (.outsideNeighbour 0 2) := by
      rw [result_compile_eq_error_iff]
      decide +kernel
    rw [refused] at made
    cases made
  · obtain ⟨inner, outer, _, _, lenient, strict, -, -, polygons, -, monitors, -⟩ :=
      (compile_framed { boundary := .empty } rectangular).2 frame frames
    exact ⟨inner, outer, lenient, strict, polygons, monitors⟩

end Compiler

end LatticeSketch
