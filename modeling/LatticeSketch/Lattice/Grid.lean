/-
# LatticeSketch.Lattice.Grid -- the lattice as text

A `Grid` is the text that a user edits, one line per lattice row from the top down, with
one flag beside it: whether the even rows, counted from the bottom, are shifted by half a
lattice step.  The flag is read off the text whenever there is a row to read it from (the
bottom row is shifted when its line begins with a space), so a grid that still has no row
may carry a requested flag.

Everything else is a function of the text: the drawn `lines`, the symbols of each row
(`rows`), the number of `columns` and of rows (`height`).  `Grid.ofText` drops the blank
lines of a text and terminates the rest; `check` refuses rows of different widths.
-/
import LatticeSketch.Fault
import LatticeSketch.Text.Words

namespace LatticeSketch

set_option autoImplicit false

/-- A lattice text and the offset of its even rows. -/
structure Grid where
  model : String := ""
  evenShifted : Bool := false
deriving DecidableEq, Repr

namespace Grid

/-- The rows as drawn, from the top down. -/
def lines (grid : Grid) : List (List Char) :=
  Text.lines grid.model.toList

/-- The symbols of each row, from the top down. -/
def rows (grid : Grid) : List (List String) :=
  grid.lines.map fun line => (Text.words line).map String.ofList

/-- The greatest number of symbols in a row. -/
def columns (grid : Grid) : Nat :=
  (grid.rows.map List.length).foldl max 0

/-- The number of rows. -/
def height (grid : Grid) : Nat :=
  grid.lines.length

/-- Whether a drawn row begins with a space. -/
def beginsShifted (line : List Char) : Bool :=
  line.head? == some ' '

/-- The grid with another text; without a row to read the flag from, the flag stays. -/
def withModel (grid : Grid) (model : String) : Grid where
  model := model
  evenShifted :=
    match (Text.lines model.toList).getLast? with
    | some line => beginsShifted line
    | none => grid.evenShifted

/-- The non-blank lines of `text`, each terminated. -/
def normalize (text : String) : String :=
  String.ofList <| Text.unlines <|
    (Text.lines text.toList).filter fun line => !line.all Text.isBlank

/-- The grid drawn by `text`. -/
def ofText (text : String) : Grid :=
  withModel {} (normalize text)

/-- The first of `counts` that differs from the one at its head, as a fault. -/
def ragged? (counts : List Nat) : Option Fault :=
  counts.head?.bind fun expected =>
    (counts.zipIdx.find? fun entry => entry.1 != expected).map fun entry =>
      .raggedRow entry.2 expected entry.1

/-- Refuses the first row that has another number of symbols than the topmost row. -/
def check (grid : Grid) : Except Fault Unit :=
  match ragged? (grid.rows.map List.length) with
  | some fault => .error fault
  | none => .ok ()

theorem withModel_model (grid : Grid) (model : String) :
    (grid.withModel model).model = model := rfl

theorem rows_length (grid : Grid) : grid.rows.length = grid.height := by
  simp [rows, height]

end Grid

end LatticeSketch
