/-
# LatticeSketch.Proofs.Lattice.Checkerboard -- checkerboards, read and edited

A checkerboard draws rows of holes in pairs (`draws_model`).  With a row and a column at all, its
text is read as it stands, with the offset that it was drawn with (`ofText_model`).  The edits keep
the form: a checkerboard made wider or narrower is the checkerboard of the new width
(`expand_model`, `reduce_model`), and a reduction that cuts all columns is refused
(`reduce_model_of_le`).
-/
import LatticeSketch.Proofs.Lattice.Pairs

namespace LatticeSketch.Checkerboard

set_option autoImplicit false

/-! ## One row -/

/-- A row of holes. -/
def row (columns : Nat) (shifted : Bool) : Row where
  shifted := shifted
  symbols := List.replicate columns '0'
  solid symbol member := by
    rw [List.eq_of_mem_replicate member]
    decide

theorem line_eq (columns : Nat) (shifted : Bool) :
    line columns shifted = (row columns shifted).line := by
  have same : pair shifted = Row.pair shifted '0' := by
    cases shifted <;> rfl
  show _ = (List.replicate columns '0').flatMap (Row.pair shifted)
  rw [line, same, List.flatMap_replicate]

theorem symbols_row_ne_nil {columns : Nat} (some_ : 0 < columns) (shifted : Bool) :
    (row columns shifted).symbols ≠ [] := by
  show List.replicate columns '0' ≠ []
  rw [Ne, List.replicate_eq_nil_iff]
  omega

theorem widen_row {columns : Nat} (some_ : 0 < columns) (sites : Nat) (shifted : Bool) :
    (row columns shifted).widen sites = row (columns + sites) shifted := by
  obtain ⟨less, rfl⟩ : ∃ less, columns = less + 1 := ⟨columns - 1, by omega⟩
  have symbols : repeatLast sites (List.replicate (less + 1) '0') =
      List.replicate (less + 1 + sites) '0' := by
    rw [List.replicate_succ', repeatLast_concat, ← List.replicate_succ',
      List.replicate_append_replicate]
  simp only [Row.widen, row, symbols]

theorem narrow_row (columns sites : Nat) (shifted : Bool) :
    (row columns shifted).narrow sites = row (columns - sites) shifted := by
  have left : min (columns - sites) columns = columns - sites := by
    omega
  simp only [Row.narrow, row, List.length_replicate, List.take_replicate, left]

theorem narrowLine_line (columns sites : Nat) (shifted : Bool) :
    Grid.narrowLine sites (line columns shifted) =
      line (columns - Grid.cutSites sites) shifted := by
  rw [line_eq, Row.narrowLine_line, narrow_row, line_eq]

/-! ## Whole checkerboards -/

/-- Counted from the bottom, where the height no longer matters, the first row is shifted if the flag
is set, and every other row like it. -/
theorem isShifted_eq_bottomUp {height place : Nat} (inside : place < height) (evenShifted : Bool) :
    isShifted height evenShifted place =
      if (height - 1 - place) % 2 = 0 then evenShifted else !evenShifted := by
  unfold isShifted
  cases evenShifted with
  | false => grind
  | true => grind

/-- The rows of a checkerboard, from the top down. -/
def rows (columns height : Nat) (evenShifted : Bool) : List Row :=
  (List.range height).map fun place => row columns (isShifted height evenShifted place)

/-- The lines of a checkerboard, from the top down. -/
def drawing (columns height : Nat) (evenShifted : Bool) : List (List Char) :=
  (List.range height).map fun row => line columns (isShifted height evenShifted row)

theorem drawing_eq (columns height : Nat) (evenShifted : Bool) :
    drawing columns height evenShifted = (rows columns height evenShifted).map Row.line := by
  rw [drawing, rows, List.map_map]
  apply List.map_congr_left
  intro place _
  exact line_eq columns _

theorem lines_model (columns height : Nat) (evenShifted : Bool) :
    Text.lines (model columns height evenShifted).toList = drawing columns height evenShifted := by
  rw [model, String.toList_ofList]
  apply Text.lines_unlines_of_unbroken
  rw [← drawing, drawing_eq]
  exact Grid.unbroken_lines_of_rows _

theorem getLast?_drawing {columns height : Nat} (rows : 0 < height) (evenShifted : Bool) :
    (drawing columns height evenShifted).getLast? = some (line columns evenShifted) := by
  obtain ⟨less, rfl⟩ : ∃ less, height = less + 1 := ⟨height - 1, by omega⟩
  simp [drawing, List.range_succ, isShifted_eq_bottomUp]

section Drawn

variable {columns height : Nat} (some_ : 0 < columns) (high : 0 < height) (evenShifted : Bool)

include some_ high

theorem withModel_model (grid : Grid) :
    grid.withModel (model columns height evenShifted) =
      ⟨model columns height evenShifted, evenShifted⟩ := by
  have side : Grid.beginsShifted (line columns evenShifted) = evenShifted := by
    rw [line_eq, Row.beginsShifted_line (symbols_row_ne_nil some_ evenShifted)]
    rfl
  rw [Grid.withModel, lines_model, getLast?_drawing high]
  simp only [side]

/-- A checkerboard is the grid that its rows draw. -/
theorem model_eq_ofRows :
    (⟨model columns height evenShifted, evenShifted⟩ : Grid) =
      Grid.ofRows (rows columns height evenShifted) := by
  rw [← withModel_model some_ high evenShifted {}, Grid.ofRows, ← drawing_eq]
  rfl

theorem draws_model :
    (Grid.mk (model columns height evenShifted) evenShifted).Draws
      (rows columns height evenShifted) columns := by
  rw [model_eq_ofRows some_ high]
  apply Grid.draws_ofRows some_
  rw [rows, List.forall_mem_map]
  intro place _
  exact List.length_replicate

/-- A checkerboard is read as it stands, with the offset that it was drawn with. -/
theorem ofText_model :
    Grid.ofText (model columns height evenShifted) =
      ⟨model columns height evenShifted, evenShifted⟩ := by
  have draws := draws_model some_ high evenShifted
  rw [model_eq_ofRows some_ high] at draws ⊢
  rw [← Grid.ofText_model_ofRows draws, ← model_eq_ofRows some_ high]

theorem expand_model (sites : Nat) :
    Grid.expand ⟨model columns height evenShifted, evenShifted⟩ sites =
      ⟨model (columns + sites) height evenShifted, evenShifted⟩ := by
  have wider : (rows columns height evenShifted).map (fun row => row.widen sites) =
      rows (columns + sites) height evenShifted := by
    rw [rows, List.map_map]
    apply List.map_congr_left
    intro place _
    exact widen_row some_ sites _
  rw [(draws_model some_ high evenShifted).expand_eq, wider, model_eq_ofRows (by omega) high]

end Drawn

section Rows

variable {columns height sites : Nat} (high : 0 < height) (evenShifted : Bool)

include high

/-- The rows of a checkerboard all have its width. -/
theorem check_and_columns_model :
    (Grid.mk (model columns height evenShifted) evenShifted).check = .ok () ∧
      (Grid.mk (model columns height evenShifted) evenShifted).columns = columns := by
  have drawn : (Grid.mk (model columns height evenShifted) evenShifted).rows =
      (drawing columns height evenShifted).map fun part => (Text.words part).map String.ofList := by
    rw [Grid.rows, Grid.lines, lines_model]
  refine (Grid.check_and_columns_iff ?_ columns).2 ?_
  · rw [drawn, Ne, List.map_eq_nil_iff, drawing, List.map_eq_nil_iff, List.range_eq_nil]
    omega
  · rw [drawn, drawing, List.map_map, List.forall_mem_map]
    intro place _
    show ((Text.words (line columns _)).map String.ofList).length = columns
    rw [line_eq, Row.words_line, List.length_map, List.length_map]
    exact List.length_replicate

theorem reduce_model (fewer : Grid.cutSites sites < columns) :
    Grid.reduce ⟨model columns height evenShifted, evenShifted⟩ sites =
      .ok ⟨model (columns - Grid.cutSites sites) height evenShifted, evenShifted⟩ := by
  have some_ : 0 < columns := by omega
  have narrower : (rows columns height evenShifted).map
      (fun row => row.narrow (Grid.cutSites sites)) =
        rows (columns - Grid.cutSites sites) height evenShifted := by
    rw [rows, List.map_map]
    apply List.map_congr_left
    intro place _
    exact narrow_row columns _ _
  rw [(draws_model some_ high evenShifted).reduce_eq fewer, narrower,
    model_eq_ofRows (by omega) high]

/-- A reduction that cuts all columns leaves nothing of the topmost row. -/
theorem reduce_model_of_le (all : columns ≤ Grid.cutSites sites) :
    Grid.reduce ⟨model columns height evenShifted, evenShifted⟩ sites =
      .error (.tooNarrow sites 0 (2 * columns)) := by
  obtain ⟨more, rfl⟩ : ∃ more, height = more + 1 := ⟨height - 1, by omega⟩
  have none : columns - Grid.cutSites sites = 0 := by omega
  have lines : Grid.lines ⟨model columns (more + 1) evenShifted, evenShifted⟩ =
      line columns (isShifted (more + 1) evenShifted 0) ::
        (List.range more).map fun row => line columns (isShifted (more + 1) evenShifted (row + 1)) := by
    rw [Grid.lines, lines_model, drawing, List.range_succ_eq_map, List.map_cons, List.map_map]
    rfl
  have width : (line columns (isShifted (more + 1) evenShifted 0)).length = 2 * columns := by
    rw [line_eq, Row.length_line]
    exact congrArg (2 * ·) List.length_replicate
  rw [Grid.reduce_of_blank_first lines, width]
  rw [narrowLine_line, none]
  rfl

end Rows

end LatticeSketch.Checkerboard
