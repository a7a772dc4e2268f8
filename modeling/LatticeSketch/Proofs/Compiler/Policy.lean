/-
# LatticeSketch.Proofs.Compiler.Policy -- the policy of a compiler

A compilation changes the numbers that a compiler has given out and never its policy
(`boundary_compile`), so all compilations of a series are made under the same one.
-/
import LatticeSketch.Compiler

namespace LatticeSketch.Compiler

set_option autoImplicit false

theorem boundary_visit {crystal : Crystal} {matrix : Matrix} {walk next : Walk} {cell : Cell}
    (visited : walk.visit crystal matrix cell = .ok next) :
    next.compiler.boundary = walk.compiler.boundary := by
  unfold Walk.visit at visited
  cases site : cell.site with
  | curve =>
      simp only [site] at visited
      cases looked : walk.compiler.boundary.surroundings matrix cell.row cell.column with
      | error fault => simp [looked] at visited
      | ok around =>
          simp only [looked, Except.ok.injEq] at visited
          rw [← visited]
          rfl
  | _ =>
      simp only [site, Except.ok.injEq] at visited
      subst visited
      rfl

theorem boundary_through (crystal : Crystal) (matrix : Matrix) (walk : Walk) (cells : List Cell) :
    (walk.through crystal matrix cells).1.compiler.boundary = walk.compiler.boundary := by
  induction cells generalizing walk with
  | nil => rfl
  | cons cell rest ih =>
      rw [Walk.through]
      cases visited : walk.visit crystal matrix cell with
      | error fault => rfl
      | ok next =>
          simp only [ih]
          exact boundary_visit visited

/-- A compiler goes through a compilation with its policy unchanged. -/
theorem boundary_compile (compiler : Compiler) (crystal : Crystal) :
    (compiler.compile crystal).compiler.boundary = compiler.boundary := by
  unfold compile
  split
  · rfl
  · rename_i matrix _
    have kept := boundary_through crystal matrix (Walk.start compiler) matrix.cells
    split
    · rename_i went
      rw [went] at kept
      exact kept
    · rename_i went
      rw [went] at kept
      exact kept

/-- What a compilation makes depends on the policy only, so a new compiler makes the same. -/
theorem compile_fresh (compiler : Compiler) (crystal : Crystal) :
    compile { boundary := compiler.boundary } crystal = compiler.compile crystal :=
  compile_congr rfl crystal

end LatticeSketch.Compiler
