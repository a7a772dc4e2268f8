/-
# LatticeSketch.Proofs.Compiler.Edge -- curves at the edge under either policy

The policy of a compiler matters to a curve only, and only where the lattice ends beside it
(`Grid.onEdge`): there and nowhere else one of the six look-ups leaves the lattice.  A walk is
therefore stopped by the first curve at the edge if the policy refuses it, and by nothing else
(`through_snd`).

So with rows of one width the lenient policy always compiles, and the strict one compiles to
the same unless there is a curve at the edge, of which it names the first; with rows of
different widths both give the same fault (`compile_under_policies`).
-/
import LatticeSketch.Proofs.Compiler.CellByCell
import LatticeSketch.Proofs.Compiler.Policy

namespace LatticeSketch

set_option autoImplicit false

open CellByCell (reference ok_of_bind)

/-! ## Positions at the edge -/

namespace Grid

/-- Whether a position is in the first or last row or in the first or last column. -/
def onEdge (grid : Grid) (row column : Nat) : Bool :=
  row == 0 || row + 1 == grid.height || column == 0 || column + 1 == grid.columns

/-- The first curve at the edge, from the bottom row upwards and from left to right. -/
def firstEdgeCurve? (grid : Grid) : Option Cell :=
  grid.drawnCells.find? fun cell => cell.site.isCurve && grid.onEdge cell.row cell.column

end Grid

/-! ## Look-ups around a curve -/

section Surroundings

variable {boundary : Boundary} {grid : Grid} {matrix : Matrix} {row column : Nat}

theorem fault_of_emptyAt {up right : Int} {fault : Fault}
    (refused : boundary.emptyAt matrix row column up right = .error fault) :
    boundary = .reject ∧ fault = .outsideNeighbour row column ∧
      matrix.neighbour (row + up) (column + right) = none := by
  unfold Boundary.emptyAt at refused
  cases site? : matrix.neighbour (row + up) (column + right) with
  | some site => simp [site?] at refused
  | none =>
      cases boundary with
      | empty => simp [site?] at refused
      | reject =>
          simp only [site?, Except.error.injEq] at refused
          exact ⟨rfl, refused.symm, rfl⟩

theorem inside_of_emptyAt {up right : Int} {empty : Bool}
    (found : Boundary.reject.emptyAt matrix row column up right = .ok empty) :
    matrix.neighbour (row + up) (column + right) ≠ none := by
  unfold Boundary.emptyAt at found
  intro outside
  simp [outside] at found

/-- A sequence of two steps fails with the fault of either. -/
theorem fault_of_bind {ε α β : Type} {value : Except ε α} {next : α → Except ε β} {fault : ε}
    (failed : value >>= next = .error fault) :
    value = .error fault ∨ ∃ middle, value = .ok middle ∧ next middle = .error fault := by
  cases value with
  | error other =>
      cases failed
      exact Or.inl rfl
  | ok middle => exact Or.inr ⟨middle, rfl, failed⟩

/-- The look-ups around a curve fail only where one of them leaves the lattice, and all of them
name the curve. -/
theorem fault_of_surroundings {fault : Fault}
    (refused : boundary.surroundings matrix row column = .error fault) :
    boundary = .reject ∧ fault = .outsideNeighbour row column ∧
      ∃ up ∈ [(-1 : Int), 1], ∃ right ∈ [(-1 : Int), 0, 1],
        matrix.neighbour (row + up) (column + right) = none := by
  have named : ∀ {up right : Int}, up ∈ [(-1 : Int), 1] → right ∈ [(-1 : Int), 0, 1] →
      boundary.emptyAt matrix row column up right = .error fault →
      boundary = .reject ∧ fault = .outsideNeighbour row column ∧
        ∃ up ∈ [(-1 : Int), 1], ∃ right ∈ [(-1 : Int), 0, 1],
          matrix.neighbour (row + up) (column + right) = none := by
    intro up right inUp inRight failed
    obtain ⟨strict, same, outside⟩ := fault_of_emptyAt failed
    exact ⟨strict, same, up, inUp, right, inRight, outside⟩
  unfold Boundary.surroundings at refused
  rcases fault_of_bind refused with failed | ⟨_, -, refused⟩
  · exact named (by decide) (by decide) failed
  rcases fault_of_bind refused with failed | ⟨_, -, refused⟩
  · exact named (by decide) (by decide) failed
  rcases fault_of_bind refused with failed | ⟨_, -, refused⟩
  · exact named (by decide) (by decide) failed
  rcases fault_of_bind refused with failed | ⟨_, -, refused⟩
  · exact named (by decide) (by decide) failed
  rcases fault_of_bind refused with failed | ⟨_, -, refused⟩
  · exact named (by decide) (by decide) failed
  rcases fault_of_bind refused with failed | ⟨_, -, refused⟩
  · exact named (by decide) (by decide) failed
  cases refused

/-- The strict policy looks at all six sites around a curve. -/
theorem inside_of_surroundings {around : Curve.Surroundings}
    (found : Boundary.reject.surroundings matrix row column = .ok around) :
    ∀ up ∈ [(-1 : Int), 1], ∀ right ∈ [(-1 : Int), 0, 1],
      matrix.neighbour (row + up) (column + right) ≠ none := by
  unfold Boundary.surroundings at found
  obtain ⟨_, upLeft, found⟩ := ok_of_bind found
  obtain ⟨_, up, found⟩ := ok_of_bind found
  obtain ⟨_, upRight, found⟩ := ok_of_bind found
  obtain ⟨_, downLeft, found⟩ := ok_of_bind found
  obtain ⟨_, down, found⟩ := ok_of_bind found
  obtain ⟨_, downRight, -⟩ := ok_of_bind found
  intro above inAbove beside inBeside
  simp only [List.mem_cons, List.not_mem_nil, or_false] at inAbove inBeside
  rcases inAbove with rfl | rfl
  · rcases inBeside with rfl | rfl | rfl
    · exact inside_of_emptyAt downLeft
    · exact inside_of_emptyAt down
    · exact inside_of_emptyAt downRight
  · rcases inBeside with rfl | rfl | rfl
    · exact inside_of_emptyAt upLeft
    · exact inside_of_emptyAt up
    · exact inside_of_emptyAt upRight

/-- Around a position of the lattice a look-up leaves it exactly at the edge. -/
theorem exists_outside_iff (built : grid.toMatrix = .ok matrix) (inRows : row < grid.height)
    (inColumns : column < grid.columns) :
    (∃ up ∈ [(-1 : Int), 1], ∃ right ∈ [(-1 : Int), 0, 1],
      matrix.neighbour (row + up) (column + right) = none) ↔ grid.onEdge row column = true := by
  have outside : ∀ up right : Int, matrix.neighbour (row + up) (column + right) = none ↔
      ¬ ((0 ≤ row + up ∧ row + up < grid.height) ∧
        0 ≤ column + right ∧ column + right < grid.columns) := by
    intro up right
    rw [← Grid.neighbour_isSome_iff built, Option.not_isSome_iff_eq_none]
  simp only [outside, List.mem_cons, List.not_mem_nil, or_false, exists_eq_or_imp,
    exists_eq_left, Grid.onEdge, Bool.or_eq_true, beq_iff_eq]
  omega

end Surroundings

/-! ## Walks -/

namespace Compiler

/-- Whether a policy refuses a cell. -/
def refuses (boundary : Boundary) (grid : Grid) (cell : Cell) : Bool :=
  boundary == .reject && (cell.site.isCurve && grid.onEdge cell.row cell.column)

/-- The strict policy refuses a lattice for its first curve at the edge. -/
theorem find?_refuses_reject (grid : Grid) :
    grid.drawnCells.find? (refuses .reject grid) = grid.firstEdgeCurve? := by
  rw [Grid.firstEdgeCurve?]
  congr 1

theorem find?_refuses_empty (grid : Grid) :
    grid.drawnCells.find? (refuses .empty grid) = none :=
  List.find?_eq_none.2 fun cell _ => by simp [refuses]

section Walks

variable {crystal : Crystal} {matrix : Matrix} {walk : Walk} {cell : Cell}
  (built : crystal.grid.toMatrix = .ok matrix)

/-- A visit fails at a curve only, and there like the look-ups around it. -/
theorem visit_eq_error_iff (fault : Fault) :
    walk.visit crystal matrix cell = .error fault ↔
      cell.site.isCurve = true ∧
        walk.compiler.boundary.surroundings matrix cell.row cell.column = .error fault := by
  unfold Walk.visit
  cases site : cell.site with
  | curve =>
      cases walk.compiler.boundary.surroundings matrix cell.row cell.column <;>
        simp [Site.isCurve]
  | _ => simp [Site.isCurve]

include built

theorem visit_of_refuses (inRows : cell.row < crystal.grid.height)
    (inColumns : cell.column < crystal.grid.columns)
    (refused : refuses walk.compiler.boundary crystal.grid cell = true) :
    walk.visit crystal matrix cell = .error (.outsideNeighbour cell.row cell.column) := by
  rw [refuses, Bool.and_eq_true, Bool.and_eq_true, beq_iff_eq] at refused
  obtain ⟨strict, curve, edge⟩ := refused
  rw [visit_eq_error_iff]
  refine ⟨curve, ?_⟩
  rw [strict]
  cases looked : Boundary.reject.surroundings matrix cell.row cell.column with
  | error fault => rw [(fault_of_surroundings looked).2.1]
  | ok around =>
      obtain ⟨up, inUp, right, inRight, outside⟩ :=
        (exists_outside_iff built inRows inColumns).2 edge
      exact absurd outside (inside_of_surroundings looked up inUp right inRight)

theorem visit_of_not_refuses (inRows : cell.row < crystal.grid.height)
    (inColumns : cell.column < crystal.grid.columns)
    (taken : refuses walk.compiler.boundary crystal.grid cell = false) :
    ∃ next, walk.visit crystal matrix cell = .ok next := by
  cases visited : walk.visit crystal matrix cell with
  | ok next => exact ⟨next, rfl⟩
  | error fault =>
      obtain ⟨curve, looked⟩ := (visit_eq_error_iff fault).1 visited
      obtain ⟨strict, -, outside⟩ := fault_of_surroundings looked
      have edge := (exists_outside_iff built inRows inColumns).1 outside
      simp [refuses, strict, curve, edge] at taken

/-- A walk stops at the first cell that its policy refuses. -/
theorem through_snd {cells : List Cell}
    (inside : ∀ cell ∈ cells, cell.row < crystal.grid.height ∧ cell.column < crystal.grid.columns) :
    (walk.through crystal matrix cells).2 =
      (cells.find? (refuses walk.compiler.boundary crystal.grid)).map fun cell =>
        .outsideNeighbour cell.row cell.column := by
  induction cells generalizing walk with
  | nil => rfl
  | cons cell rest ih =>
      rw [List.forall_mem_cons] at inside
      obtain ⟨⟨inRows, inColumns⟩, others⟩ := inside
      rw [Walk.through]
      cases refused : refuses walk.compiler.boundary crystal.grid cell with
      | true =>
          rw [List.find?_cons_of_pos refused, visit_of_refuses built inRows inColumns refused]
          rfl
      | false =>
          obtain ⟨next, visited⟩ := visit_of_not_refuses built inRows inColumns refused
          rw [List.find?_cons_of_neg (by simpa using refused), visited,
            ← boundary_visit visited]
          exact ih others

end Walks

/-! ## Compilations -/

/-- Rows of different widths are refused under any policy. -/
theorem result_compile_of_fault (compiler : Compiler) {crystal : Crystal} {fault : Fault}
    (refused : crystal.grid.check = .error fault) :
    (compiler.compile crystal).result = .error fault := by
  unfold compile
  rw [Grid.toMatrix_of_fault refused]

theorem result_of_through {compiler : Compiler} {crystal : Crystal} {matrix : Matrix}
    (built : crystal.grid.toMatrix = .ok matrix) {last : Walk} {fault? : Option Fault}
    (went : (Walk.start compiler).through crystal matrix matrix.cells = (last, fault?)) :
    (compiler.compile crystal).result = fault?.elim (.ok last.made) .error := by
  unfold compile
  rw [built]
  dsimp only
  rw [went]
  cases fault? <;> rfl

/-- A compilation of a lattice with rows of one width is stopped by the first cell that the
policy refuses and gives the reference otherwise. -/
theorem result_compile (compiler : Compiler) {crystal : Crystal}
    (checked : crystal.grid.check = .ok ()) :
    (compiler.compile crystal).result =
      match crystal.grid.drawnCells.find? (refuses compiler.boundary crystal.grid) with
      | some cell => .error (.outsideNeighbour cell.row cell.column)
      | none => .ok (reference crystal) := by
  obtain ⟨matrix, built⟩ : ∃ matrix, crystal.grid.toMatrix = .ok matrix :=
    ⟨_, (Grid.toMatrix_eq_ok_iff _ _).2 ⟨checked, rfl⟩⟩
  have stopped : ((Walk.start compiler).through crystal matrix crystal.grid.drawnCells).2 = _ :=
    through_snd built fun _ member => Grid.mem_drawnCells member
  have policy : (Walk.start compiler).compiler.boundary = compiler.boundary := rfl
  rw [policy, ← Grid.cells_of_toMatrix built] at stopped
  rcases went : (Walk.start compiler).through crystal matrix matrix.cells with ⟨last, fault?⟩
  have result := result_of_through built went
  rw [went, Grid.cells_of_toMatrix built] at stopped
  have stopped : fault? = _ := stopped
  cases first : crystal.grid.drawnCells.find? (refuses compiler.boundary crystal.grid) with
  | some cell =>
      rw [first] at stopped
      rw [result, stopped]
      rfl
  | none =>
      rw [first] at stopped
      have made : (compiler.compile crystal).result = .ok last.made := by
        rw [result, stopped]
        rfl
      rw [made, CellByCell.eq_reference_of_compile made]

theorem result_compile_lenient (compiler : Compiler) {crystal : Crystal}
    (checked : crystal.grid.check = .ok ()) :
    ({ compiler with boundary := .empty }.compile crystal).result = .ok (reference crystal) := by
  rw [result_compile _ checked, find?_refuses_empty]

theorem result_compile_strict (compiler : Compiler) {crystal : Crystal}
    (checked : crystal.grid.check = .ok ()) :
    ({ compiler with boundary := .reject }.compile crystal).result =
      match crystal.grid.firstEdgeCurve? with
      | some cell => .error (.outsideNeighbour cell.row cell.column)
      | none => .ok (reference crystal) := by
  rw [result_compile _ checked, find?_refuses_reject]

/-- Why a policy refuses a lattice, if it does. -/
def refusal? (boundary : Boundary) (grid : Grid) : Option Fault :=
  match grid.check with
  | .error fault => some fault
  | .ok () => (grid.drawnCells.find? (refuses boundary grid)).map fun cell =>
      .outsideNeighbour cell.row cell.column

/-- Whether a compilation fails, and with which fault, is up to the policy and the lattice: the
other data of the crystal and its place play no part. -/
theorem result_compile_eq_error_iff (compiler : Compiler) (crystal : Crystal) (fault : Fault) :
    (compiler.compile crystal).result = .error fault ↔
      refusal? compiler.boundary crystal.grid = some fault := by
  unfold refusal?
  cases checked : crystal.grid.check with
  | error other =>
      rw [result_compile_of_fault compiler checked, Except.error.injEq, Option.some.injEq]
  | ok passed =>
      rw [result_compile compiler checked]
      cases crystal.grid.drawnCells.find? (refuses compiler.boundary crystal.grid) <;> simp

/-- The two policies side by side, whatever numbers the compiler has given out.  The lenient one
only refuses rows of different widths, and the strict one refuses them with the same fault.  With
rows of one width the strict policy compiles a lattice exactly when no curve is at its edge, to
what the lenient one makes of it, and otherwise names the first curve at the edge. -/
theorem compile_under_policies (compiler : Compiler) (crystal : Crystal) :
    (∀ fault, ({ compiler with boundary := .empty }.compile crystal).result = .error fault →
      (∃ row expected found, fault = .raggedRow row expected found) ∧
        ({ compiler with boundary := .reject }.compile crystal).result = .error fault) ∧
    ((∀ first ∈ crystal.grid.rows, ∀ second ∈ crystal.grid.rows, first.length = second.length) →
      ((∃ compiled,
          ({ compiler with boundary := .reject }.compile crystal).result = .ok compiled) ↔
        ∀ cell ∈ crystal.grid.drawnCells, cell.site.isCurve = true →
          crystal.grid.onEdge cell.row cell.column = false) ∧
      (∀ compiled, ({ compiler with boundary := .reject }.compile crystal).result = .ok compiled →
        ({ compiler with boundary := .empty }.compile crystal).result = .ok compiled) ∧
      (∀ cell, crystal.grid.firstEdgeCurve? = some cell →
        ({ compiler with boundary := .reject }.compile crystal).result =
          .error (.outsideNeighbour cell.row cell.column))) := by
  constructor
  · intro fault failed
    cases checked : crystal.grid.check with
    | error other =>
        rw [result_compile_of_fault _ checked, Except.error.injEq] at failed
        subst failed
        exact ⟨Grid.fault_of_check checked, result_compile_of_fault _ checked⟩
    | ok passed =>
        rw [result_compile_lenient compiler checked] at failed
        cases failed
  · intro rectangular
    have checked := Grid.check_of_rectangular rectangular
    have strict := result_compile_strict compiler checked
    refine ⟨?_, ?_, ?_⟩
    · have clear : crystal.grid.firstEdgeCurve? = none ↔
          ∀ cell ∈ crystal.grid.drawnCells, cell.site.isCurve = true →
            crystal.grid.onEdge cell.row cell.column = false := by
        simp [Grid.firstEdgeCurve?, List.find?_eq_none]
      rw [strict, ← clear]
      cases crystal.grid.firstEdgeCurve? <;> simp
    · intro compiled compiles
      rw [result_compile_lenient compiler checked, CellByCell.eq_reference_of_compile compiles]
    · intro cell first
      rw [strict, first]

/-- Two curves at the edge of a lattice, the lower right one of which is named, and a lattice
with a curve inside. -/
theorem compile_under_policies_edge :
    (Compiler.compile { boundary := .reject }
        ⟨"pc", 1, 1, Grid.ofText "c 0 0 \n 0 c 0\n0 0 c \n", 0⟩).result =
      .error (.outsideNeighbour 0 2) ∧
    (∃ compiled, (Compiler.compile { boundary := .reject }
        ⟨"pc", 1, 1, Grid.ofText "0 0 0 \n 0 c 0\n0 0 0 \n", 0⟩).result = .ok compiled) ∧
    ∃ row expected found,
      (Compiler.compile { boundary := .reject }
        ⟨"pc", 1, 1, Grid.ofText "c 0 \n 0\n", 0⟩).result =
          .error (.raggedRow row expected found) := by
  refine ⟨?_, ?_, ?_⟩
  · have policies := (compile_under_policies { boundary := .empty }
      ⟨"pc", 1, 1, Grid.ofText "c 0 0 \n 0 c 0\n0 0 c \n", 0⟩).2 (by decide +kernel)
    exact policies.2.2 ⟨0, 2, .curve⟩ (by decide +kernel)
  · have policies := (compile_under_policies { boundary := .empty }
      ⟨"pc", 1, 1, Grid.ofText "0 0 0 \n 0 c 0\n0 0 0 \n", 0⟩).2 (by decide +kernel)
    exact policies.1.2 (by decide +kernel)
  · have checked : (Grid.ofText "c 0 \n 0\n").check = .error (.raggedRow 1 2 1) := by
      rfl
    have policies := (compile_under_policies { boundary := .empty }
      ⟨"pc", 1, 1, Grid.ofText "c 0 \n 0\n", 0⟩).1 _ (result_compile_of_fault _ checked)
    exact ⟨1, 2, 1, policies.2⟩

end Compiler

end LatticeSketch
