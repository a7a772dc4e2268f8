/-
# LatticeSketch.Lattice.Resize -- making a lattice wider or narrower

A site takes up two characters of its row, the symbol and the blank that says on which
side the row is shifted.  `Grid.expand` repeats the last two characters of every row and
`Grid.reduce` drops two characters per site, so a row keeps its offset.  Neither looks at
the symbols: both act on characters.

Numbers of sites and of characters are machine words of 64 bits.  An expansion repeats the
pair once for each site and counts no characters, but a reduction first doubles the number
of sites, and the double of half of `countBound` or more does not fit a word.  What wraps
around is cut then (`Grid.cutLength`), as it is in an optimized build; a build that checks
its arithmetic stops there instead.

A reduction that would leave some row blank is refused (`tooNarrow?`) and the first such
row is named.
-/
import LatticeSketch.Lattice.Grid

namespace LatticeSketch

set_option autoImplicit false

/-- One more than the greatest number of sites, rows or characters. -/
def countBound : Nat := 0x10000000000000000

namespace Grid

/-- The last two characters of a row, or all of a shorter one. -/
def lastPair (line : List Char) : List Char :=
  line.drop (line.length - 2)

/-- A row with its last pair repeated `sites` times. -/
def widenLine (sites : Nat) (line : List Char) : List Char :=
  line ++ (List.replicate sites (lastPair line)).flatten

/-- The number of characters that a reduction by `sites` sites drops from a row. -/
def cutLength (sites : Nat) : Nat :=
  2 * sites % countBound

/-- A row without the pairs of its last `sites` sites. -/
def narrowLine (sites : Nat) (line : List Char) : List Char :=
  line.take (line.length - cutLength sites)

/-- The grid with every row `sites` sites wider. -/
def expand (grid : Grid) (sites : Nat) : Grid :=
  grid.withModel (String.ofList (Text.unlines (grid.lines.map (widenLine sites))))

/-- The first row that would be blank after losing `sites` sites, as a fault. -/
def tooNarrow? (sites : Nat) (lines : List (List Char)) : Option Fault :=
  (lines.zipIdx.find? fun entry => (narrowLine sites entry.1).all Text.isBlank).map fun entry =>
    .tooNarrow sites entry.2 entry.1.length

/-- The grid with every row `sites` sites narrower. -/
def reduce (grid : Grid) (sites : Nat) : Except Fault Grid :=
  match tooNarrow? sites grid.lines with
  | some fault => .error fault
  | none =>
      .ok (grid.withModel (String.ofList (Text.unlines (grid.lines.map (narrowLine sites)))))

/-! ### Counting what is cut -/

/-- The number of sites whose characters a reduction by `sites` sites drops. -/
def cutSites (sites : Nat) : Nat :=
  sites % (countBound / 2)

theorem cutLength_eq (sites : Nat) : cutLength sites = 2 * cutSites sites := by
  have even : countBound = 2 * (countBound / 2) := rfl
  rw [cutLength, cutSites, even, Nat.mul_mod_mul_left, ← even]

/-- As long as twice the number fits a word, all sites are dropped. -/
theorem cutSites_of_lt {sites : Nat} (few : 2 * sites < countBound) : cutSites sites = sites := by
  apply Nat.mod_eq_of_lt
  unfold countBound at few ⊢
  omega

theorem cutLength_of_lt {sites : Nat} (few : 2 * sites < countBound) :
    cutLength sites = 2 * sites := by
  rw [cutLength_eq, cutSites_of_lt few]

end Grid

end LatticeSketch
