/-
# LatticeSketch.Lattice.Checkerboard -- the lattice a new crystal starts from

Each row of a checkerboard repeats one pair of characters: `" 0"` in a shifted row and
`"0 "` in an unshifted one.  The offset alternates from row to row.  Rows are drawn from the
top down, and the height decides on which rows the shift has to fall for the bottom row to
be shifted when asked for.
-/
import LatticeSketch.Lattice.Grid

namespace LatticeSketch.Checkerboard

set_option autoImplicit false

/-- The pair that a row repeats. -/
def pair (shifted : Bool) : List Char :=
  if shifted then [' ', '0'] else ['0', ' ']

/-- Whether row `row`, counted from the top of `height` rows, is shifted. -/
def isShifted (height : Nat) (evenShifted : Bool) (row : Nat) : Bool :=
  let parityRow := if (height % 2 == 1) == evenShifted then row else row + 1
  parityRow % 2 == 0

/-- One row of `columns` holes. -/
def line (columns : Nat) (shifted : Bool) : List Char :=
  (List.replicate columns (pair shifted)).flatten

/-- The text of a checkerboard; with no columns its rows are empty lines. -/
def model (columns height : Nat) (evenShifted : Bool) : String :=
  String.ofList <| Text.unlines <|
    (List.range height).map fun row => line columns (isShifted height evenShifted row)

end LatticeSketch.Checkerboard
