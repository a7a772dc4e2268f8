/-
# LatticeSketch.Proofs.Files.Editing -- lattices of an archive, edited and opened again

An edit that succeeds leaves a lattice with the same rows.  It opens again with the asked-for
number of columns exactly when the edited characters are those of whole sites
(`reopens_as_resized_iff`): a row to repeat the last site of has to end in a symbol and a
blank, and a row to cut sites off has to have one symbol begin in every pair.
-/
import LatticeSketch.Proofs.Files.Archive
import LatticeSketch.Proofs.Lattice.Reloading

namespace LatticeSketch.Archive

set_option autoImplicit false

/-- An opened lattice that is made wider or narrower opens again with the same rows, and as
many columns wider or narrower as asked for exactly when the edited characters are whole
sites. -/
theorem reopens_as_resized_iff {archive : Archive} {name : String}
    {latticeConstant depth : Float} {crystal : Crystal}
    (opened : Crystal.load archive name latticeConstant depth = .ok crystal) (sites : Nat) :
    ((crystal.expand archive sites).result = .ok () →
      (∀ again, Crystal.load (crystal.expand archive sites).store name latticeConstant depth =
        .ok again → again.height = crystal.height) ∧
      (0 < crystal.height →
        (Crystal.Opens (crystal.expand archive sites).store name latticeConstant depth
            crystal.height (crystal.columns + sites) ↔
          sites = 0 ∨ ∀ line ∈ crystal.grid.lines, Grid.EndsInPair line))) ∧
    ((crystal.reduce archive sites).result = .ok () →
      (∀ again, Crystal.load (crystal.reduce archive sites).store name latticeConstant depth =
        .ok again → again.height = crystal.height) ∧
      ((∃ columns, columns + sites = crystal.columns ∧
          Crystal.Opens (crystal.reduce archive sites).store name latticeConstant depth
            crystal.height columns) ↔
        sites = 0 ∨ 0 < crystal.height ∧
          ∀ line ∈ crystal.grid.lines, Grid.cutSymbols sites line = sites)) := by
  constructor
  · intro expanded
    exact ⟨fun again reopened => Crystal.height_of_load_expand opened expanded reopened,
      fun drawn => Crystal.opens_expand_iff opened expanded drawn⟩
  · intro reduced
    exact ⟨fun again reopened => Crystal.height_of_load_reduce opened reduced reopened,
      Crystal.opens_reduce_iff opened reduced⟩

/-! ### Two archives -/

/-- An archive with one lattice, called `pc`. -/
def holding (text : String) : Archive where
  files := ⟨[(["pc_crystal_model.txt"], .file text.toUTF8)]⟩
  home := []
  directory := ""

/-- The lattice of such an archive as it is opened. -/
def drawnBy (text : String) : Crystal :=
  ⟨"pc", 0, 0, Grid.ofText text, 0⟩

theorem load_holding {text : String}
    (loads : Grid.load (holding text) "pc" = .ok (Grid.ofText text)) :
    Crystal.load (holding text) "pc" 0 0 = .ok (drawnBy text) :=
  (Crystal.load_eq_ok_iff _ _ _ _ _).2 ⟨_, loads, rfl⟩

/-- A lattice with a site to repeat and a site to cut off. -/
theorem reopens_as_resized_row :
    Crystal.load (holding "0 1 \n") "pc" 0 0 = .ok (drawnBy "0 1 \n") ∧
    Crystal.Opens ((drawnBy "0 1 \n").expand (holding "0 1 \n") 1).store "pc" 0 0 1 3 ∧
    ∃ columns, columns + 1 = 2 ∧
      Crystal.Opens ((drawnBy "0 1 \n").reduce (holding "0 1 \n") 1).store "pc" 0 0 1 columns := by
  have loads : Grid.load (holding "0 1 \n") "pc" = .ok (Grid.ofText "0 1 \n") := by
    decide +kernel
  have opened := load_holding loads
  obtain ⟨wider, narrower⟩ := reopens_as_resized_iff opened 1
  have expanded := (wider (by decide +kernel)).2 (by decide +kernel)
  have reduced := (narrower (by decide +kernel)).2
  have pairs : ∀ line ∈ (drawnBy "0 1 \n").grid.lines, Grid.EndsInPair line := by
    decide +kernel
  have cuts : ∀ line ∈ (drawnBy "0 1 \n").grid.lines, Grid.cutSymbols 1 line = 1 := by
    decide +kernel
  exact ⟨opened, expanded.2 (Or.inr pairs), reduced.2 (Or.inr ⟨by decide +kernel, cuts⟩)⟩

/-- A row of one character has no pair to repeat: made wider it still has one column. -/
theorem not_reopens_wider :
    ¬ ∀ (archive : Archive) (name : String) (latticeConstant depth : Float) (crystal : Crystal)
        (sites : Nat),
      Crystal.load archive name latticeConstant depth = .ok crystal → 0 < crystal.height →
      (crystal.expand archive sites).result = .ok () →
      Crystal.Opens (crystal.expand archive sites).store name latticeConstant depth
        crystal.height (crystal.columns + sites) := by
  intro wider
  have loads : Grid.load (holding "0\n") "pc" = .ok (Grid.ofText "0\n") := by decide +kernel
  have opened := load_holding loads
  have expanded : ((drawnBy "0\n").expand (holding "0\n") 1).result = .ok () := by
    decide +kernel
  have reopens := wider _ _ _ _ _ 1 opened (by decide +kernel) expanded
  rw [Crystal.opens_expand_iff opened expanded (by decide +kernel)] at reopens
  have single : ¬ ∀ line ∈ (drawnBy "0\n").grid.lines, Grid.EndsInPair line := by
    decide +kernel
  exact single (reopens.resolve_left (by decide))

end LatticeSketch.Archive
