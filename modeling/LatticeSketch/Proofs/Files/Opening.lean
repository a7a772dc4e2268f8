/-
# LatticeSketch.Proofs.Files.Opening -- opening a lattice, or creating it where there is none

Of the faults that opening a lattice can meet, only the missing model leads on to creating one
(`loadOrCreate_of_ne_missingModel`), and in an archive that is the fault of a path where nothing is
found (`load_missingModel_iff`).  So a lattice that is there, whatever it holds, is opened or
refused, and every file stays as it is.  Otherwise the checkerboard is written, if its path can be
followed, and nothing is copied aside as there is nothing to copy (`save_of_nothing`).

What was opened or created is opened again as the same crystal, and asking for it to be created
again changes nothing any more (`loadOrCreate_again`).  That is so in every store that hands back
what it was given.
-/
import LatticeSketch.Proofs.Files.Creating
import LatticeSketch.Proofs.Files.Editing
import LatticeSketch.Proofs.Files.Saving

namespace LatticeSketch

set_option autoImplicit false

/-! ## In any store -/

namespace Crystal

section Stores

variable {σ : Type} [LatticeStore σ] {store : σ} {name : String} (latticeConstant depth : Float)

theorem loadOrCreate_of_ne_missingModel
    (there : ∀ missing path,
      LatticeStore.load store name ≠ .error (.missingModel missing path)) :
    loadOrCreate store name latticeConstant depth =
      (load store name latticeConstant depth, store) := by
  unfold loadOrCreate
  split
  · rename_i missing path refused
    unfold load Grid.load at refused
    cases kept : LatticeStore.load store name with
    | error fault =>
        simp only [kept, Except.map, Except.error.injEq] at refused
        exact absurd (refused ▸ kept) (there missing path)
    | ok text =>
        -- the check of the rows has a fault of its own
        cases checked : (Grid.ofText text).check with
        | ok passed => simp [kept, checked, Except.map] at refused
        | error fault =>
            obtain ⟨row, expected, found, rfl⟩ := Grid.fault_of_check checked
            simp [kept, checked, Except.map] at refused
  · rfl

/-- A missing lattice is created. -/
theorem loadOrCreate_of_missingModel {missing path : String}
    (lost : LatticeStore.load store name = .error (.missingModel missing path)) :
    loadOrCreate store name latticeConstant depth =
      let made := Grid.generate {} store name initialSize initialSize
      (made.result.map fun () => ⟨name, latticeConstant, depth, made.value, 0⟩, made.store) := by
  have refused : load store name latticeConstant depth = .error (.missingModel missing path) := by
    simp [load, Grid.load, lost, Except.map]
  rw [loadOrCreate, refused]

/-- A lattice that opens is not created. -/
theorem loadOrCreate_of_load {crystal : Crystal}
    (opened : load store name latticeConstant depth = .ok crystal) :
    loadOrCreate store name latticeConstant depth = (.ok crystal, store) := by
  rw [loadOrCreate, opened]

/-- The lattice that a new name gets. -/
def initialGrid : Grid :=
  Grid.ofText (Checkerboard.model initialSize initialSize false)

theorem initialGrid_model :
    initialGrid.model = Checkerboard.model initialSize initialSize false := by
  rw [initialGrid, Checkerboard.ofText_model (by decide) (by decide)]

/-- It has rows and columns, so it is in memory what it is when it is read. -/
theorem withModel_initial :
    Grid.withModel {} (Checkerboard.model initialSize initialSize false) = initialGrid := by
  have sized : 0 < initialSize := by decide
  rw [initialGrid, Checkerboard.ofText_model sized sized]
  exact Checkerboard.withModel_model sized sized false {}

theorem load_of_created [LatticeStore.Faithful σ]
    (created : (Grid.generate {} store name initialSize initialSize).result = .ok ()) :
    let made := Grid.generate {} store name initialSize initialSize
    made.value = initialGrid ∧ load made.store name latticeConstant depth =
      .ok ⟨name, latticeConstant, depth, initialGrid, 0⟩ := by
  obtain ⟨-, drawn⟩ := Grid.save_of_generate created
  exact ⟨drawn.trans withModel_initial,
    (load_eq_ok_iff _ _ _ _ _).2 ⟨_, Grid.load_of_generate created, rfl⟩⟩

/-- Whatever is opened or created is opened again as it is, and is not created again. -/
theorem loadOrCreate_again [LatticeStore.Faithful σ] {crystal : Crystal}
    (opened : (loadOrCreate store name latticeConstant depth).1 = .ok crystal) :
    let after := (loadOrCreate store name latticeConstant depth).2
    load after name latticeConstant depth = .ok crystal ∧
      loadOrCreate after name latticeConstant depth = (.ok crystal, after) := by
  intro after
  have reopened : load after name latticeConstant depth = .ok crystal := by
    by_cases lost : ∃ missing path,
        LatticeStore.load store name = .error (.missingModel missing path)
    · obtain ⟨missing, path, lost⟩ := lost
      have shape := loadOrCreate_of_missingModel latticeConstant depth lost
      have behind : after = (Grid.generate {} store name initialSize initialSize).store :=
        congrArg Prod.snd shape
      rw [shape] at opened
      cases created : (Grid.generate {} store name initialSize initialSize).result with
      | error fault => simp [created, Except.map] at opened
      | ok done =>
          obtain ⟨value, loaded⟩ := load_of_created latticeConstant depth created
          simp only [created, Except.map, value, Except.ok.injEq] at opened
          rw [behind, loaded, opened]
    · have kept := loadOrCreate_of_ne_missingModel latticeConstant depth
        fun missing path same => lost ⟨missing, path, same⟩
      have behind : after = store := congrArg Prod.snd kept
      rw [kept] at opened
      rw [behind]
      exact opened
  exact ⟨reopened, loadOrCreate_of_load latticeConstant depth reopened⟩

end Stores

end Crystal

/-! ## In an archive -/

namespace Archive

variable {archive : Archive} {name : String}

/-- A lattice is missing exactly where nothing is found at its path. -/
theorem load_eq_missingModel_iff :
    (∃ missing path, archive.load name = .error (.missingModel missing path)) ↔
      archive.holds (archive.modelPath name) = false := by
  unfold load
  cases found : archive.holds (archive.modelPath name) with
  | false => simp
  | true =>
      cases archive.files.readText archive.home (archive.modelPath name) <;>
        simp [Except.mapError]

section Missing

variable (latticeConstant depth : Float)

theorem loadOrCreate_of_holds (found : archive.holds (archive.modelPath name) = true) :
    Crystal.loadOrCreate archive name latticeConstant depth =
      (Crystal.load archive name latticeConstant depth, archive) := by
  refine Crystal.loadOrCreate_of_ne_missingModel latticeConstant depth fun missing path lost => ?_
  have unheld := load_eq_missingModel_iff.1 ⟨missing, path, lost⟩
  rw [found] at unheld
  cases unheld

/-- Where nothing is found, what comes of creating a lattice is what comes of saving it. -/
theorem loadOrCreate_of_not_holds (unheld : archive.holds (archive.modelPath name) = false) :
    let saved := archive.save name Crystal.initialGrid.model
    Crystal.loadOrCreate archive name latticeConstant depth =
      (saved.1.map fun () => ⟨name, latticeConstant, depth, Crystal.initialGrid, 0⟩, saved.2) := by
  intro saved
  obtain ⟨missing, path, lost⟩ := load_eq_missingModel_iff.2 unheld
  have shape : LatticeStore.save archive name
      (Checkerboard.model Crystal.initialSize Crystal.initialSize false) = saved := by
    rw [← Crystal.initialGrid_model]
    rfl
  rw [Crystal.loadOrCreate_of_missingModel latticeConstant depth lost]
  unfold Grid.generate
  dsimp only
  rw [shape]
  obtain ⟨result, after⟩ := saved
  cases result with
  | error fault => rfl
  | ok done => simp only [Crystal.withModel_initial]

end Missing

/-- Opening a lattice, or creating it where there is none.  If anything is found at the path of the
lattice, a lattice or not, the answer is that of opening it and every file is as it was.  If nothing
is there, a checkerboard is written to that place, and every other place holds what it held; no
backup is made.  If the path leads nowhere, the file system refuses it, and nothing changes.
Whichever lattice was answered with is opened again as the same crystal, and is neither created nor
changed when it is asked for again. -/
theorem opened_or_created (archive : Archive) (name : String) (latticeConstant depth : Float) :
    let path := archive.modelPath name
    let opened := Crystal.loadOrCreate archive name latticeConstant depth
    let after := opened.2
    (archive.holds path = true →
      opened = (Crystal.load archive name latticeConstant depth, archive)) ∧
    (∀ place, archive.files.resolve archive.home path = .ok place →
      archive.files.at? place = none →
      opened.1 = .ok ⟨name, latticeConstant, depth, Crystal.initialGrid, 0⟩ ∧
      after = { archive with files := after.files } ∧
      ∀ other, after.files.at? other =
        if other = place then some (.file Crystal.initialGrid.model.toUTF8)
        else archive.files.at? other) ∧
    (∀ fault, archive.files.resolve archive.home path = .error fault →
      (∃ cause, opened.1 = .error (.file cause)) ∧ after = archive) ∧
    ∀ crystal, opened.1 = .ok crystal →
      Crystal.load after name latticeConstant depth = .ok crystal ∧
        Crystal.loadOrCreate after name latticeConstant depth = (.ok crystal, after) := by
  intro path opened after
  refine ⟨loadOrCreate_of_holds latticeConstant depth, ?created, ?refused, ?again⟩
  case created =>
    intro place resolved absent
    have unheld : archive.holds path = false := by
      have found : archive.holds path = (archive.files.at? place).isSome :=
        FileTree.holds_of_resolve resolved
      rw [found, absent]
      rfl
    have inside : place ≠ [] := by
      rintro rfl
      simp [FileTree.at?_nil] at absent
    have made : opened = _ := loadOrCreate_of_not_holds latticeConstant depth unheld
    rw [save_of_nothing resolved absent] at made
    have behind : after = { archive with
        files := archive.files.put place (.file Crystal.initialGrid.model.toUTF8) } :=
      congrArg Prod.snd made
    refine ⟨congrArg Prod.fst made, by rw [behind], fun other => ?_⟩
    rw [behind]
    by_cases same : other = place
    · rw [if_pos same, same, FileTree.at?_put_self _ inside]
    · rw [if_neg same, FileTree.at?_put_of_ne _ _ same]
  case refused =>
    intro fault lost
    have made : opened = _ := loadOrCreate_of_not_holds latticeConstant depth
      (FileTree.holds_of_resolve_error lost)
    obtain ⟨cause, stopped⟩ := save_of_resolve_error lost Crystal.initialGrid.model
    rw [stopped] at made
    exact ⟨⟨cause, congrArg Prod.fst made⟩, congrArg Prod.snd made⟩
  case again =>
    intro crystal answer
    exact Crystal.loadOrCreate_again latticeConstant depth answer

/-- A lattice that is there but cannot be opened is left as it is.  In an empty directory a lattice
is created, without a directory for backups, and is there when it is asked for again. -/
theorem opened_or_created_ragged :
    Crystal.loadOrCreate (holding "0 0 \n0 \n") "pc" 1 1 =
        (.error (.raggedRow 1 2 1), holding "0 0 \n0 \n") ∧
      let created : Crystal := ⟨"pc", 1, 1, Crystal.initialGrid, 0⟩
      let made := Crystal.loadOrCreate inEmptyDirectory "pc" 1 1
      made.1 = .ok created ∧ made.2.files.at? (shelfPlace []) = none ∧
        Crystal.loadOrCreate made.2 "pc" 1 1 = (.ok created, made.2) := by
  have refused : Crystal.load (holding "0 0 \n0 \n") "pc" 1 1 = .error (.raggedRow 1 2 1) := by
    decide +kernel
  obtain ⟨there, -⟩ := opened_or_created (holding "0 0 \n0 \n") "pc" 1 1
  obtain ⟨-, missing, -, again⟩ := opened_or_created inEmptyDirectory "pc" 1 1
  obtain ⟨answer, -, held⟩ := missing (modelPlace [] "pc") (by decide +kernel) (by decide +kernel)
  have elsewhere := (modelPlace_ne_shelfPlace [] "pc").symm
  exact ⟨(there (by decide +kernel)).trans (by rw [refused]), answer,
    (held (shelfPlace [])).trans (if_neg elsewhere), (again _ answer).2⟩

end Archive

end LatticeSketch
