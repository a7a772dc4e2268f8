/-
# LatticeSketch.Proofs.Lattice.Cells -- the sites of a lattice by their positions

`Grid.siteAt` looks a site up in the rows as they are drawn, from the top down; outside of the
lattice there is an empty site.  The matrix of a grid holds the same sites bottom row first:
its cells are the drawn positions in reading order from the bottom (`cells_of_toMatrix`), a
look-up in any direction finds the drawn site (`neighbour_of_toMatrix`), and it finds one exactly
inside of the lattice (`neighbour_isSome_iff`).
-/
import LatticeSketch.Lattice.Matrix
import LatticeSketch.Proofs.Lattice.Reading

namespace LatticeSketch

set_option autoImplicit false

namespace Grid

/-- The site drawn at a position, rows counted from the bottom; every position outside of the
lattice is empty. -/
def siteAt (grid : Grid) (row column : Int) : Site :=
  if row < 0 ∨ grid.height ≤ row ∨ column < 0 then .empty
  else
    match grid.rows[grid.height - 1 - row.toNat]?.bind fun symbols => symbols[column.toNat]? with
    | some symbol => Site.ofSymbol symbol
    | none => .empty

/-- The positions of a lattice, bottom row first and from left to right. -/
def positions (grid : Grid) : List (Nat × Nat) :=
  (List.range grid.height).flatMap fun row =>
    (List.range grid.columns).map fun column => (row, column)

/-- The cells of a lattice by their positions. -/
def drawnCells (grid : Grid) : List Cell :=
  grid.positions.map fun place => ⟨place.1, place.2, grid.siteAt place.1 place.2⟩

theorem mem_drawnCells {grid : Grid} {cell : Cell} (member : cell ∈ grid.drawnCells) :
    cell.row < grid.height ∧ cell.column < grid.columns := by
  simp only [drawnCells, positions, List.mem_map, List.mem_flatMap, List.mem_range] at member
  obtain ⟨place, ⟨row, inRows, column, inColumns, rfl⟩, rfl⟩ := member
  exact ⟨inRows, inColumns⟩

theorem toMatrix_eq_ok_iff (grid : Grid) (matrix : Matrix) :
    grid.toMatrix = .ok matrix ↔
      grid.check = .ok () ∧ matrix = ⟨grid.rows.reverse, grid.evenShifted⟩ := by
  unfold toMatrix
  cases grid.check with
  | error fault => simp
  | ok passed => simp [eq_comm]

theorem toMatrix_of_fault {grid : Grid} {fault : Fault} (refused : grid.check = .error fault) :
    grid.toMatrix = .error fault := by
  unfold toMatrix
  rw [refused]

/-- Row `row` from the bottom is the drawn row as far from the last one. -/
theorem getElem?_reverse_rows (grid : Grid) {row : Nat} (inside : row < grid.height) :
    grid.rows.reverse[row]? = grid.rows[grid.height - 1 - row]? := by
  rw [← grid.rows_length] at inside ⊢
  exact List.getElem?_reverse inside

/-- A look-up in the matrix finds the drawn site, and nothing outside. -/
theorem neighbour_of_toMatrix {grid : Grid} {matrix : Matrix} (built : grid.toMatrix = .ok matrix)
    (row column : Int) : (matrix.neighbour row column).getD .empty = grid.siteAt row column := by
  obtain ⟨-, rfl⟩ := (toMatrix_eq_ok_iff grid matrix).1 built
  unfold Matrix.neighbour Matrix.site? siteAt
  by_cases before : row < 0 ∨ column < 0
  · rw [if_pos before, if_pos (by omega)]
    rfl
  · rw [if_neg before]
    by_cases beyond : (grid.height : Int) ≤ row
    · rw [if_pos (Or.inr (Or.inl beyond)), List.getElem?_eq_none]
      · rfl
      · rw [List.length_reverse, grid.rows_length]
        omega
    · rw [if_neg (by omega), grid.getElem?_reverse_rows (by omega)]
      cases grid.rows[grid.height - 1 - row.toNat]?.bind fun symbols => symbols[column.toNat]? <;>
        rfl

/-- A look-up finds a site exactly inside of the lattice. -/
theorem neighbour_isSome_iff {grid : Grid} {matrix : Matrix} (built : grid.toMatrix = .ok matrix)
    (row column : Int) :
    (matrix.neighbour row column).isSome = true ↔
      (0 ≤ row ∧ row < grid.height) ∧ 0 ≤ column ∧ column < grid.columns := by
  obtain ⟨checked, rfl⟩ := (toMatrix_eq_ok_iff grid matrix).1 built
  have wide := (check_eq_ok_iff grid).1 checked
  unfold Matrix.neighbour Matrix.site?
  by_cases before : row < 0 ∨ column < 0
  · rw [if_pos before]
    refine iff_of_false (by simp) ?_
    omega
  · rw [if_neg before, Option.isSome_map]
    have count : grid.rows.reverse.length = grid.height := by
      rw [List.length_reverse, grid.rows_length]
    cases found : grid.rows.reverse[row.toNat]? with
    | none =>
        have beyond := List.getElem?_eq_none_iff.1 found
        refine iff_of_false (by simp) ?_
        omega
    | some symbols =>
        have inside : row.toNat < grid.rows.reverse.length :=
          (List.getElem?_eq_some_iff.1 found).1
        have width := wide symbols (List.mem_reverse.1 (List.mem_of_getElem? found))
        rw [Option.bind_some, Option.isSome_iff_ne_none, ne_eq, List.getElem?_eq_none_iff]
        omega

/-- The cells of one row by their columns. -/
theorem rowCells_eq {symbols : List String} {width : Nat} (wide : symbols.length = width)
    {site : Nat → Site}
    (drawn : ∀ column symbol, symbols[column]? = some symbol → site column = Site.ofSymbol symbol)
    (row : Nat) :
    Matrix.rowCells row symbols = (List.range width).map fun column => ⟨row, column, site column⟩ := by
  subst wide
  refine List.ext_getElem (by simp [Matrix.rowCells]) fun column inside _ => ?_
  have within : column < symbols.length := by
    simpa [Matrix.rowCells] using inside
  have found := drawn column symbols[column] (List.getElem?_eq_getElem within)
  simp [Matrix.rowCells, found]

/-- The cells of the matrix are the drawn ones, bottom row first. -/
theorem cells_of_toMatrix {grid : Grid} {matrix : Matrix} (built : grid.toMatrix = .ok matrix) :
    matrix.cells = grid.drawnCells := by
  obtain ⟨checked, rfl⟩ := (toMatrix_eq_ok_iff grid matrix).1 built
  have wide := (check_eq_ok_iff grid).1 checked
  have rows : (grid.rows.reverse.zipIdx.map fun entry => Matrix.rowCells entry.2 entry.1) =
      (List.range grid.height).map fun row =>
        (List.range grid.columns).map fun column => (⟨row, column, grid.siteAt row column⟩ : Cell) := by
    refine List.ext_getElem (by simp [grid.rows_length]) fun row inside _ => ?_
    have within : row < grid.height := by
      simpa [grid.rows_length] using inside
    have bound : row < grid.rows.reverse.length := by
      simpa [grid.rows_length] using within
    have member : grid.rows.reverse[row] ∈ grid.rows :=
      List.mem_reverse.1 (List.getElem_mem bound)
    have found : grid.rows[grid.height - 1 - row]? = some grid.rows.reverse[row] := by
      rw [← grid.getElem?_reverse_rows within, List.getElem?_eq_getElem bound]
    have drawn : ∀ (column : Nat) (symbol : String),
        grid.rows.reverse[row][column]? = some symbol →
          grid.siteAt row column = Site.ofSymbol symbol := by
      intro column symbol drawn
      have inRange : ¬ ((row : Int) < 0 ∨ (grid.height : Int) ≤ row ∨ (column : Int) < 0) := by
        omega
      simp only [siteAt, inRange, if_false, Int.toNat_natCast, found, Option.bind_some, drawn]
    have cells := rowCells_eq (wide _ member) drawn row
    simpa using cells
  rw [Matrix.cells, List.flatMap_def, rows, drawnCells, positions, List.map_flatMap,
    List.flatMap_def]
  simp [Function.comp_def]

end Grid

end LatticeSketch
