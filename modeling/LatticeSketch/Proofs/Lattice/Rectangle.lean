/-
# LatticeSketch.Proofs.Lattice.Rectangle -- the matrix as the rectangle of the drawn symbols

The cells of a matrix are the positions at which it has a site (`mem_cells_iff`), each once, row by
row and from left to right (`pairwise_cells`).

`Grid.Flips` says of a matrix that it is a grid turned upside down: as high and as wide, every
position with the symbol drawn there and the site of that symbol, and nothing found around it.  The
matrix of a grid does so (`flips_of_toMatrix`).  A grid has one unless two of its rows differ in
their numbers of symbols, and the fault then names the first row that differs from the topmost one.
-/
import LatticeSketch.Proofs.Lattice.Cells

namespace LatticeSketch

set_option autoImplicit false

/-- The order of positions: by rows, and in a row by columns. -/
def Cell.Precedes (first second : Cell) : Prop :=
  first.row < second.row ∨ (first.row = second.row ∧ first.column < second.column)

/-! ## Cells of any matrix -/

theorem pairwise_zipIdx {α : Type} (list : List α) :
    list.zipIdx.Pairwise fun first second => first.2 < second.2 := by
  rw [← List.pairwise_map, List.zipIdx_map_snd]
  exact List.pairwise_lt_range' 1

namespace Matrix

/-- The cells come row by row and from left to right, so no position comes twice. -/
theorem pairwise_cells (matrix : Matrix) : matrix.cells.Pairwise Cell.Precedes := by
  rw [cells, List.pairwise_flatMap]
  refine ⟨fun entry _ => ?_, (pairwise_zipIdx matrix.symbols).imp fun above => ?_⟩
  · rw [rowCells, List.pairwise_map]
    exact (pairwise_zipIdx entry.1).imp fun before => .inr ⟨rfl, before⟩
  · intro first inFirst second inSecond
    obtain ⟨_, -, rfl⟩ := List.mem_map.1 inFirst
    obtain ⟨_, -, rfl⟩ := List.mem_map.1 inSecond
    exact .inl above

theorem mem_cells_iff (matrix : Matrix) (cell : Cell) :
    cell ∈ matrix.cells ↔ matrix.site? cell.row cell.column = some cell.site := by
  simp only [cells, rowCells, List.mem_flatMap, List.mem_map, Prod.exists,
    List.mk_mem_zipIdx_iff_getElem?, site?, Option.map_eq_some_iff, Option.bind_eq_some_iff]
  constructor
  · rintro ⟨symbols, row, inMatrix, symbol, column, inRow, rfl⟩
    exact ⟨symbol, ⟨symbols, inMatrix, inRow⟩, rfl⟩
  · rintro ⟨symbol, ⟨symbols, inMatrix, inRow⟩, site⟩
    exact ⟨symbols, cell.row, inMatrix, symbol, cell.column, inRow, by rw [site]⟩

/-- A look-up inside the first quadrant is a look-up of a site. -/
theorem neighbour_natCast (matrix : Matrix) (row column : Nat) :
    matrix.neighbour row column = matrix.site? row column := by
  unfold neighbour
  rw [if_neg (by omega), Int.toNat_natCast, Int.toNat_natCast]

end Matrix

/-! ## The matrix of a grid -/

namespace Grid

/-- The matrix is the rectangle of the drawn symbols, bottom row first. -/
structure Flips (grid : Grid) (matrix : Matrix) : Prop where
  height : matrix.height = grid.height
  width : matrix.width = grid.columns
  rows : ∀ symbols ∈ matrix.symbols, symbols.length = grid.columns
  symbol : ∀ row < grid.height, ∀ column < grid.columns, ∃ symbols symbol,
    grid.rows[grid.height - 1 - row]? = some symbols ∧ symbols[column]? = some symbol ∧
      (matrix.symbols[row]?.bind fun symbols => symbols[column]?) = some symbol ∧
      matrix.site? row column = some (Site.ofSymbol symbol)
  topDown : matrix.topDown = grid.rows
  ordered : matrix.cells.Pairwise Cell.Precedes
  cells : ∀ cell, cell ∈ matrix.cells ↔
    (cell.row < grid.height ∧ cell.column < grid.columns) ∧
      matrix.site? cell.row cell.column = some cell.site
  neighbour : ∀ row column : Int, matrix.neighbour row column =
    if (0 ≤ row ∧ row < matrix.height) ∧ 0 ≤ column ∧ column < matrix.width then
      matrix.site? row.toNat column.toNat
    else none

section Built

variable {grid : Grid} {matrix : Matrix} (built : grid.toMatrix = .ok matrix)

include built

theorem height_of_toMatrix : matrix.height = grid.height := by
  obtain ⟨-, rfl⟩ := (toMatrix_eq_ok_iff grid matrix).1 built
  rw [Matrix.height, List.length_reverse, rows_length]

theorem length_of_mem_symbols {symbols : List String} (member : symbols ∈ matrix.symbols) :
    symbols.length = grid.columns := by
  obtain ⟨checked, rfl⟩ := (toMatrix_eq_ok_iff grid matrix).1 built
  exact (check_eq_ok_iff grid).1 checked symbols (List.mem_reverse.1 member)

theorem width_of_toMatrix : matrix.width = grid.columns := by
  unfold Matrix.width
  cases bottom : matrix.symbols.head? with
  | some symbols => exact length_of_mem_symbols built (List.mem_of_mem_head? bottom)
  | none =>
      -- without rows no number of symbols is greater than zero
      obtain ⟨-, rfl⟩ := (toMatrix_eq_ok_iff grid matrix).1 built
      have rows : grid.rows = [] := by simpa using bottom
      rw [columns, rows]
      rfl

/-- Inside of the lattice there is a site. -/
theorem site?_isSome_iff (row column : Nat) :
    (matrix.site? row column).isSome = true ↔ row < grid.height ∧ column < grid.columns := by
  rw [← Matrix.neighbour_natCast, neighbour_isSome_iff built]
  omega

theorem symbol_of_toMatrix {row column : Nat} (inRows : row < grid.height)
    (inColumns : column < grid.columns) :
    ∃ symbols symbol, grid.rows[grid.height - 1 - row]? = some symbols ∧
      symbols[column]? = some symbol ∧
      (matrix.symbols[row]?.bind fun symbols => symbols[column]?) = some symbol ∧
      matrix.site? row column = some (Site.ofSymbol symbol) := by
  obtain ⟨site, found⟩ :=
    Option.isSome_iff_exists.1 ((site?_isSome_iff built row column).2 ⟨inRows, inColumns⟩)
  obtain ⟨-, rfl⟩ := (toMatrix_eq_ok_iff grid matrix).1 built
  obtain ⟨symbol, drawn, rfl⟩ := Option.map_eq_some_iff.1 found
  obtain ⟨symbols, inMatrix, inRow⟩ := Option.bind_eq_some_iff.1 drawn
  rw [getElem?_reverse_rows grid inRows] at inMatrix
  exact ⟨symbols, symbol, inMatrix, inRow, drawn, found⟩

theorem neighbour_eq (row column : Int) :
    matrix.neighbour row column =
      if (0 ≤ row ∧ row < matrix.height) ∧ 0 ≤ column ∧ column < matrix.width then
        matrix.site? row.toNat column.toNat
      else none := by
  have inside := neighbour_isSome_iff built row column
  rw [height_of_toMatrix built, width_of_toMatrix built]
  split
  · rename_i within
    unfold Matrix.neighbour
    rw [if_neg (by omega)]
  · rename_i beyond
    rwa [← inside, Option.not_isSome_iff_eq_none] at beyond

/-- The matrix of a grid is its rectangle turned upside down. -/
theorem flips_of_toMatrix : grid.Flips matrix where
  height := height_of_toMatrix built
  width := width_of_toMatrix built
  rows symbols member := length_of_mem_symbols built member
  symbol row inRows column inColumns := symbol_of_toMatrix built inRows inColumns
  topDown := by
    obtain ⟨-, rfl⟩ := (toMatrix_eq_ok_iff grid matrix).1 built
    exact List.reverse_reverse grid.rows
  ordered := matrix.pairwise_cells
  cells cell := by
    rw [Matrix.mem_cells_iff, ← site?_isSome_iff built]
    refine ⟨fun found => ⟨?_, found⟩, And.right⟩
    rw [found]
    rfl
  neighbour := neighbour_eq built

end Built

/-- Every grid has a matrix exactly if its rows have one number of symbols; otherwise the fault names
the first row from the top whose number is not that of the topmost row, with both numbers.  The
matrix is the rectangle of the drawn symbols turned upside down. -/
theorem toMatrix_rectangle (grid : Grid) :
    ((∃ matrix, grid.toMatrix = .ok matrix) ↔
      ∀ first ∈ grid.rows, ∀ second ∈ grid.rows, first.length = second.length) ∧
    (∀ fault, grid.toMatrix = .error fault ↔
      ∃ place expected found, FirstRagged (grid.rows.map List.length) place expected found ∧
        fault = .raggedRow place expected found) ∧
    ∀ matrix, grid.toMatrix = .ok matrix → grid.Flips matrix := by
  refine ⟨?accepted, ?refused, fun matrix built => flips_of_toMatrix built⟩
  case accepted =>
    rw [← check_eq_ok_iff_rectangular]
    simp [toMatrix_eq_ok_iff]
  case refused =>
    intro fault
    rw [← check_eq_error_iff]
    unfold toMatrix
    cases grid.check <;> simp

/-- A lattice of two columns, and one whose third row is too short. -/
theorem toMatrix_rectangle_two :
    (ofText "0 s \n c 1\n").Flips ⟨[["c", "1"], ["0", "s"]], true⟩ ∧
      (ofText "0 1 \n c 2\nm \n").toMatrix = .error (.raggedRow 2 2 1) := by
  have built : (ofText "0 s \n c 1\n").toMatrix = .ok ⟨[["c", "1"], ["0", "s"]], true⟩ := by
    rfl
  have ragged : FirstRagged ((ofText "0 1 \n c 2\nm \n").rows.map List.length) 2 2 1 :=
    ⟨by decide +kernel, by decide +kernel, by decide, by decide +kernel⟩
  exact ⟨(toMatrix_rectangle _).2.2 _ built,
    ((toMatrix_rectangle _).2.1 _).2 ⟨2, 2, 1, ragged, rfl⟩⟩

end Grid

end LatticeSketch
