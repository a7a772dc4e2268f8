/-
# LatticeSketch.Proofs.Files.Creating -- checkerboards, kept and read back

A checkerboard is kept as it is drawn, while reading a text drops its blank lines and takes the
offset from the last line that is left.  With a row and a column no line is blank, so the lattice
that was created is read back as it is.  Without a column all lines are blank, and without a row
there are none: what is read back is the lattice without rows, unshifted
(`ofText_model_of_empty`), although the lattice in memory has kept its blank rows or the offset
that was asked for.

So the two agree exactly if there is a row and a column, or no row and no offset asked for
(`created_read_back_iff`).
-/
import LatticeSketch.Proofs.Files.Archive
import LatticeSketch.Proofs.Lattice.Checkerboard

namespace LatticeSketch

set_option autoImplicit false

namespace Checkerboard

variable {columns height : Nat}

/-- Without a row or without a column no line of a checkerboard is kept when it is read. -/
theorem ofText_model_of_empty (empty : columns = 0 ∨ height = 0) (evenShifted : Bool) :
    Grid.ofText (model columns height evenShifted) = {} := by
  have none : Grid.keptLines (model columns height evenShifted) = [] := by
    rw [Grid.keptLines, lines_model, List.filter_eq_nil_iff, drawing, List.forall_mem_map]
    intro row member
    rcases empty with rfl | rfl
    · simp [line]
    · simp at member
  have nothing : Grid.normalize (model columns height evenShifted) = "" :=
    congrArg (fun lines => String.ofList (Text.unlines lines)) none
  rw [Grid.ofText, nothing]
  rfl

theorem height_withModel_model (grid : Grid) (evenShifted : Bool) :
    (grid.withModel (model columns height evenShifted)).height = height := by
  rw [Grid.height, Grid.lines, Grid.withModel_model, lines_model]
  simp [drawing]

end Checkerboard

/-- An archive in an empty directory. -/
def Archive.inEmptyDirectory : Archive where
  files := {}
  home := []
  directory := ""

namespace Grid

section Created

variable {σ : Type} [LatticeStore σ] {grid : Grid} {store : σ} {name : String}
  {columns height : Nat} (created : (grid.generate store name columns height).result = .ok ())

include created

theorem save_of_generate :
    LatticeStore.save store name (Checkerboard.model columns height grid.evenShifted) =
        (.ok (), (grid.generate store name columns height).store) ∧
      (grid.generate store name columns height).value =
        grid.withModel (Checkerboard.model columns height grid.evenShifted) := by
  unfold generate at created ⊢
  dsimp only at created ⊢
  cases saved :
      LatticeStore.save store name (Checkerboard.model columns height grid.evenShifted) with
  | mk result after =>
      cases result with
      | error fault => simp [saved] at created
      | ok done => simp only [true_and]

variable [LatticeStore.Faithful σ]

/-- What is read back is the drawn text of the checkerboard, and its rows always have one width. -/
theorem load_of_generate :
    Grid.load (grid.generate store name columns height).store name =
      .ok (Grid.ofText (Checkerboard.model columns height grid.evenShifted)) := by
  obtain ⟨saved, -⟩ := save_of_generate created
  refine (load_eq_ok_iff _ _ _).2 ⟨_, LatticeStore.Faithful.load_of_save saved, ?_, rfl⟩
  by_cases drawn : 0 < columns ∧ 0 < height
  · rw [Checkerboard.ofText_model drawn.1 drawn.2]
    exact (Checkerboard.check_and_columns_model drawn.2 grid.evenShifted).1
  · rw [Checkerboard.ofText_model_of_empty (by omega)]
    rfl

/-- A lattice that was created can always be read back.  It is the one in memory exactly if it
has a row and a column, or has no row and was not asked to be shifted; without a row or a column
it is the lattice without rows. -/
theorem created_read_back_iff :
    ∃ again, Grid.load (grid.generate store name columns height).store name = .ok again ∧
      (again = (grid.generate store name columns height).value ↔
        0 < columns ∧ 0 < height ∨ height = 0 ∧ grid.evenShifted = false) ∧
      (columns = 0 ∨ height = 0 → again = {}) := by
  refine ⟨_, load_of_generate created, ?_, fun empty =>
    Checkerboard.ofText_model_of_empty empty _⟩
  rw [(save_of_generate created).2]
  by_cases drawn : 0 < columns ∧ 0 < height
  · rw [Checkerboard.ofText_model drawn.1 drawn.2, Checkerboard.withModel_model drawn.1 drawn.2]
    exact iff_of_true rfl (.inl drawn)
  · rw [Checkerboard.ofText_model_of_empty (by omega)]
    by_cases rows : height = 0
    · subst rows
      have kept : grid.withModel (Checkerboard.model columns 0 grid.evenShifted) =
          ⟨"", grid.evenShifted⟩ := rfl
      rw [kept]
      cases grid.evenShifted <;> simp
    · -- the rows without a column are still there in memory
      refine iff_of_false (fun same => rows ?_) (by omega)
      have read := congrArg Grid.height same
      rw [Checkerboard.height_withModel_model] at read
      exact read.symm

end Created

/-- Two rows of three columns, shifted, are read back as they were created. -/
theorem created_read_back_shifted :
    let made := Grid.generate { evenShifted := true } Archive.inEmptyDirectory "pc" 3 2
    Grid.load made.store "pc" = .ok made.value := by
  intro made
  have created : made.result = .ok () := by decide +kernel
  obtain ⟨again, loaded, same, -⟩ := created_read_back_iff created
  rw [loaded, same.2 (.inl (by decide))]

/-- One row without a column is read back as no row, and a shifted lattice without rows as an
unshifted one. -/
theorem not_created_read_back :
    let blank := Grid.generate {} Archive.inEmptyDirectory "pc" 0 1
    let rowless := Grid.generate { evenShifted := true } Archive.inEmptyDirectory "pc" 2 0
    (blank.result = .ok () ∧ blank.value = ⟨"\n", false⟩ ∧
      Grid.load blank.store "pc" = .ok ⟨"", false⟩) ∧
    rowless.result = .ok () ∧ rowless.value = ⟨"", true⟩ ∧
      Grid.load rowless.store "pc" = .ok ⟨"", false⟩ := by
  decide +kernel

end Grid

end LatticeSketch
