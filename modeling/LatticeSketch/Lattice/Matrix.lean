/-
# LatticeSketch.Lattice.Matrix -- the lattice as rows of sites, bottom row first

`Grid.toMatrix` turns the rows of a grid upside down, so that row numbers grow with the
height in the structure.  It refuses a grid whose rows have different widths, hence the
rows of its matrix have one width.  Look-ups beyond the edge give nothing and never wrap
around (`Matrix.neighbour`).
-/
import LatticeSketch.Lattice.Grid
import LatticeSketch.Lattice.Site

namespace LatticeSketch

set_option autoImplicit false

/-- The symbols of a lattice, bottom row first, and the offset of its even rows. -/
structure Matrix where
  symbols : List (List String)
  evenShifted : Bool
deriving DecidableEq, Repr

/-- A site with its row and column. -/
structure Cell where
  row : Nat
  column : Nat
  site : Site
deriving DecidableEq, Repr

namespace Matrix

/-- The number of rows. -/
def height (matrix : Matrix) : Nat :=
  matrix.symbols.length

/-- The number of sites in the bottom row. -/
def width (matrix : Matrix) : Nat :=
  (matrix.symbols.head?.map List.length).getD 0

/-- The site at `row` and `column`, inside the lattice. -/
def site? (matrix : Matrix) (row column : Nat) : Option Site :=
  (matrix.symbols[row]?.bind fun symbols => symbols[column]?).map Site.ofSymbol

/-- The site at `row` and `column`, which may lie on any side of the lattice. -/
def neighbour (matrix : Matrix) (row column : Int) : Option Site :=
  if row < 0 ∨ column < 0 then none else matrix.site? row.toNat column.toNat

/-- Whether `row` is shifted right by half a lattice step. -/
def isShifted (matrix : Matrix) (row : Nat) : Bool :=
  (row % 2 == 1) != matrix.evenShifted

/-- The cells of one row, from left to right. -/
def rowCells (row : Nat) (symbols : List String) : List Cell :=
  symbols.zipIdx.map fun entry => ⟨row, entry.2, Site.ofSymbol entry.1⟩

/-- Every cell, bottom row first, from left to right. -/
def cells (matrix : Matrix) : List Cell :=
  matrix.symbols.zipIdx.flatMap fun entry => rowCells entry.2 entry.1

/-- The rows from the top down again. -/
def topDown (matrix : Matrix) : List (List String) :=
  matrix.symbols.reverse

/-- The number of symbols that the catalog does not list. -/
def unknownCount (matrix : Matrix) : Nat :=
  matrix.symbols.flatten.countP fun symbol => !Site.isKnown symbol

end Matrix

/-- The matrix drawn by `grid`; rows of different widths are refused. -/
def Grid.toMatrix (grid : Grid) : Except Fault Matrix :=
  match grid.check with
  | .error fault => .error fault
  | .ok () => .ok ⟨grid.rows.reverse, grid.evenShifted⟩

end LatticeSketch
