/-
# LatticeSketch.Proofs.Lattice.Offsets -- the offset that is drawn and the offset that is compiled

A checkerboard is drawn from the top down, and the parity of a row's number from there, against the
height and the flag, says on which side its spaces go.  Its matrix counts the rows from the bottom up
and shifts them by the parity of that number against the flag that was read off the last line.  The
two agree row by row (`isShifted_matrix`).

They agree on every lattice that a checkerboard is edited to: edits in any number, refused ones
included, leave a checkerboard of the same height with the same flag (`edit_model`,
`editAll_model`), so every site stays a hole and the offsets alternate (`offsets_agree`).
-/
import LatticeSketch.Proofs.Lattice.Cells
import LatticeSketch.Proofs.Lattice.Checkerboard

namespace LatticeSketch

set_option autoImplicit false

/-- An edit of a lattice, by a number of sites. -/
inductive Edit where
  | widen (sites : Nat)
  | narrow (sites : Nat)
deriving DecidableEq, Repr

namespace Grid

/-- The lattice behind an edit; one that is refused leaves it. -/
def edit (grid : Grid) : Edit → Grid
  | .widen sites => grid.expand sites
  | .narrow sites =>
      match grid.reduce sites with
      | .ok narrower => narrower
      | .error _ => grid

/-- The lattice behind edits that follow each other. -/
def editAll (grid : Grid) (edits : List Edit) : Grid :=
  edits.foldl edit grid

end Grid

namespace Matrix

/-- The site of a cell is that of one of the symbols. -/
theorem exists_symbol_of_mem_cells {matrix : Matrix} {cell : Cell} (member : cell ∈ matrix.cells) :
    ∃ symbols ∈ matrix.symbols, ∃ symbol ∈ symbols, cell.site = Site.ofSymbol symbol := by
  obtain ⟨⟨symbols, row⟩, inMatrix, inRow⟩ := List.mem_flatMap.1 member
  obtain ⟨⟨symbol, column⟩, inSymbols, rfl⟩ := List.mem_map.1 inRow
  exact ⟨symbols, List.fst_mem_of_mem_zipIdx inMatrix, symbol,
    List.fst_mem_of_mem_zipIdx inSymbols, rfl⟩

end Matrix

namespace Checkerboard

/-! ## Offsets -/

/-- Counted from the bottom, rows are shifted by the parity of their number against the flag. -/
theorem isShifted_matrix (symbols : List (List String)) {height place : Nat}
    (inside : place < height) (evenShifted : Bool) :
    isShifted height evenShifted place =
      (Matrix.mk symbols evenShifted).isShifted (height - 1 - place) := by
  rw [isShifted_eq_bottomUp inside, Matrix.isShifted]
  rcases Nat.mod_two_eq_zero_or_one (height - 1 - place) with even | odd
  · simp [even]
  · simp [odd]

/-- Neighbouring rows are not shifted alike. -/
theorem isShifted_ne_succ {height place : Nat} (inside : place + 1 < height)
    (evenShifted : Bool) :
    isShifted height evenShifted place ≠ isShifted height evenShifted (place + 1) := by
  have parity : (height - 1 - place) % 2 ≠ (height - 1 - (place + 1)) % 2 := by
    omega
  rw [isShifted_eq_bottomUp inside, isShifted_eq_bottomUp (Nat.lt_of_succ_lt inside)]
  cases evenShifted with
  | false => grind
  | true => grind

section Drawn

variable {columns height : Nat} (some_ : 0 < columns) (high : 0 < height) (evenShifted : Bool)

include some_ high

/-- The lines begin with a space in the rows that were to be shifted. -/
theorem beginsShifted_model {place : Nat} {line : List Char}
    (found : (Grid.mk (model columns height evenShifted) evenShifted).lines[place]? = some line) :
    place < height ∧ Grid.beginsShifted line = isShifted height evenShifted place := by
  have sides := (draws_model some_ high evenShifted).sides_eq
  have side := congrArg (fun flags : List Bool => flags[place]?) sides
  simp only [List.getElem?_map, found, rows, List.map_map] at side
  by_cases inside : place < height
  · rw [List.getElem?_range inside] at side
    exact ⟨inside, Option.some.inj side⟩
  · rw [List.getElem?_eq_none (by simpa using inside)] at side
    cases side

/-- All symbols of a checkerboard are holes. -/
theorem rows_model :
    (Grid.mk (model columns height evenShifted) evenShifted).rows =
      List.replicate height (List.replicate columns "0") := by
  have hole : String.singleton '0' = "0" := rfl
  have each : ∀ place, (row columns (isShifted height evenShifted place)).symbols.map
      String.singleton = List.replicate columns "0" := by
    intro place
    show (List.replicate columns '0').map String.singleton = _
    rw [List.map_replicate, hole]
  rw [(draws_model some_ high evenShifted).rows_eq, rows, List.map_map]
  refine List.eq_replicate_iff.2 ⟨by simp, ?_⟩
  rw [List.forall_mem_map]
  intro place _
  exact each place

theorem height_model :
    (Grid.mk (model columns height evenShifted) evenShifted).height = height := by
  rw [← Grid.rows_length, rows_model some_ high, List.length_replicate]

/-- The matrix of a checkerboard holds as many holes, with the flag that it was drawn with. -/
theorem toMatrix_model :
    (Grid.mk (model columns height evenShifted) evenShifted).toMatrix =
      .ok ⟨List.replicate height (List.replicate columns "0"), evenShifted⟩ := by
  apply (Grid.toMatrix_eq_ok_iff _ _).2
  rw [rows_model some_ high, List.reverse_replicate]
  exact ⟨(check_and_columns_model high evenShifted).1, rfl⟩

omit some_ high in
/-- So all cells are plain holes. -/
theorem site_of_mem_cells {cell : Cell} (member : cell ∈
    (Matrix.mk (List.replicate height (List.replicate columns "0")) evenShifted).cells) :
    cell.site = .circle 0.30 := by
  obtain ⟨symbols, inMatrix, symbol, inRow, site⟩ := Matrix.exists_symbol_of_mem_cells member
  rw [List.eq_of_mem_replicate inMatrix] at inRow
  rw [site, List.eq_of_mem_replicate inRow]
  rfl

/-! ## Edits -/

/-- An edit leaves a checkerboard of the same height and with the same flag. -/
theorem edit_model (edit : Edit) :
    ∃ columns', 0 < columns' ∧
      (Grid.mk (model columns height evenShifted) evenShifted).edit edit =
        ⟨model columns' height evenShifted, evenShifted⟩ := by
  cases edit with
  | widen sites =>
      exact ⟨columns + sites, by omega, expand_model some_ high evenShifted sites⟩
  | narrow sites =>
      by_cases fewer : Grid.cutSites sites < columns
      · refine ⟨columns - Grid.cutSites sites, by omega, ?_⟩
        rw [Grid.edit, reduce_model high evenShifted fewer]
      · refine ⟨columns, some_, ?_⟩
        rw [Grid.edit, reduce_model_of_le high evenShifted (by omega)]

/-- So do all edits that follow each other. -/
theorem editAll_model (edits : List Edit) :
    ∃ columns', 0 < columns' ∧
      (Grid.mk (model columns height evenShifted) evenShifted).editAll edits =
        ⟨model columns' height evenShifted, evenShifted⟩ := by
  induction edits generalizing columns with
  | nil => exact ⟨columns, some_, rfl⟩
  | cons edit rest ih =>
      obtain ⟨between, positive, edited⟩ := edit_model some_ high evenShifted edit
      obtain ⟨columns', left, behind⟩ := ih positive
      refine ⟨columns', left, ?_⟩
      rw [← behind, ← edited]
      rfl

/-- A checkerboard that was read and edited in any way keeps its height and its flag.  All its rows
have one width, all its sites are the same holes, and the line of a row begins with a space exactly
if the row is shifted in the matrix, where it is counted from the bottom.  Neighbouring rows have
different offsets. -/
theorem offsets_agree (edits : List Edit) :
    let grid := (Grid.ofText (model columns height evenShifted)).editAll edits
    grid.evenShifted = evenShifted ∧ grid.height = height ∧ grid.check = .ok () ∧
    0 < grid.columns ∧ ∃ matrix, grid.toMatrix = .ok matrix ∧
      matrix.symbols = List.replicate height (List.replicate grid.columns "0") ∧
      (∀ cell ∈ matrix.cells, cell.site = .circle 0.30) ∧
      (∀ place line, grid.lines[place]? = some line →
        Grid.beginsShifted line = matrix.isShifted (height - 1 - place) ∧
        Grid.beginsShifted line =
          ((if (height % 2 == 1) == evenShifted then place else place + 1) % 2 == 0)) ∧
      ∀ place upper lower, grid.lines[place]? = some upper →
        grid.lines[place + 1]? = some lower →
        Grid.beginsShifted upper ≠ Grid.beginsShifted lower := by
  intro grid
  obtain ⟨columns', left, edited⟩ := editAll_model some_ high evenShifted edits
  have drawn : grid = ⟨model columns' height evenShifted, evenShifted⟩ := by
    rw [← edited, ← ofText_model some_ high]
  clear_value grid
  subst drawn
  obtain ⟨checked, wide⟩ :
      (Grid.mk (model columns' height evenShifted) evenShifted).check = .ok () ∧
        (Grid.mk (model columns' height evenShifted) evenShifted).columns = columns' :=
    check_and_columns_model high evenShifted
  rw [wide]
  refine ⟨rfl, height_model left high evenShifted, checked, left, _,
    toMatrix_model left high evenShifted, rfl, fun cell => site_of_mem_cells evenShifted, ?sides,
    ?neighbours⟩
  case sides =>
    intro place line found
    obtain ⟨inside, side⟩ := beginsShifted_model left high evenShifted found
    rw [side]
    exact ⟨isShifted_matrix _ inside evenShifted, rfl⟩
  case neighbours =>
    intro place upper lower above below
    obtain ⟨-, upperSide⟩ := beginsShifted_model left high evenShifted above
    obtain ⟨inside, lowerSide⟩ := beginsShifted_model left high evenShifted below
    rw [upperSide, lowerSide]
    exact isShifted_ne_succ inside evenShifted

end Drawn

/-- Two columns that are narrowed in vain, widened and narrowed. -/
theorem offsets_agree_edited :
    let grid := (Grid.ofText (model 2 2 true)).editAll [.narrow 5, .widen 1, .narrow 2]
    grid.evenShifted = true ∧ grid.height = 2 ∧ 0 < grid.columns ∧
      ∀ place line, grid.lines[place]? = some line →
        Grid.beginsShifted line = (Matrix.mk grid.rows.reverse true).isShifted (1 - place) := by
  intro grid
  obtain ⟨flag, tall, checked, wide, matrix, built, -, -, sides, -⟩ :=
    offsets_agree (by decide : 0 < 2) (by decide : 0 < 2) true [.narrow 5, .widen 1, .narrow 2]
  obtain ⟨-, rfl⟩ := (Grid.toMatrix_eq_ok_iff _ _).1 built
  refine ⟨flag, tall, wide, ?_⟩
  intro place line found
  have side := (sides place line found).1
  rw [flag] at side
  exact side

end Checkerboard

end LatticeSketch
