/-
# LatticeSketch.Proofs.Files.Places -- where the lattices of an archive and their backups lie

In an archive whose directory is at `root`, the lattice called `name` is the file at
`modelPlace root name` and its backups are the files at `backupPlace root name number`.  All of
them are different places, those of different names included (`modelPlace_inj`,
`backupPlace_eq_iff`, `backupPlace_ne_modelPlace`).

The paths of an archive lead there if the file system accepts the names and the paths, and only
then (`Named`, `Fits`): `resolve_modelPath` and `named_of_resolve`, `resolve_backupPathAt` and
`fits_of_resolve`.
-/
import LatticeSketch.Files.Archive
import LatticeSketch.Proofs.Decimal.Counting
import LatticeSketch.Proofs.Files.Tree
import LatticeSketch.Proofs.Text.Lines

namespace LatticeSketch.Archive

set_option autoImplicit false

/-! ## Places -/

/-- The place of the lattice called `name`. -/
def modelPlace (root : Place) (name : String) : Place :=
  root ++ [name ++ "_crystal_model.txt"]

/-- The place of the directory of the backups. -/
def shelfPlace (root : Place) : Place :=
  root ++ ["backups"]

/-- The name of the file of a backup. -/
def backupFile (name : String) (number : Nat) : String :=
  name ++ "_crystal_model_bkp" ++ number.repr ++ ".txt"

/-- The place of backup `number` of the lattice called `name`. -/
def backupPlace (root : Place) (name : String) (number : Nat) : Place :=
  root ++ ["backups", backupFile name number]

theorem modelPlace_inj {root : Place} {name other : String} :
    modelPlace root name = modelPlace root other ↔ name = other := by
  simp [modelPlace, String.append_left_inj]

theorem not_mem_repr {c : Char} (other : c.isDigit = false) (number : Nat) :
    c ∉ number.repr.toList := by
  intro member
  rw [Decimal.isDigit_of_mem_repr member] at other
  exact absurd other (by decide)

/-- The digits behind the last `p` are the number, whatever the name looks like. -/
theorem backupFile_inj {name other : String} {m n : Nat} :
    backupFile name m = backupFile other n ↔ name = other ∧ m = n := by
  constructor
  · intro same
    have plain : ∀ k : Nat, 'p' ∉ k.repr.toList.reverse := fun k member =>
      not_mem_repr (by decide) k (List.mem_reverse.1 member)
    have numbered :
        name ++ "_crystal_model_bkp" ++ m.repr = other ++ "_crystal_model_bkp" ++ n.repr :=
      (String.append_left_inj ".txt").1 same
    have backwards := congrArg (fun text : String => text.toList.reverse) numbered
    simp only [String.toList_append, List.reverse_append] at backwards
    obtain ⟨digits, rest⟩ := (Text.append_mark_inj (plain m) (plain n)).1 backwards
    refine ⟨?_, Decimal.eq_of_repr_eq (String.toList_inj.1 (List.reverse_inj.1 digits))⟩
    have letters : name.toList = other.toList := by simpa using rest
    exact String.toList_inj.1 letters
  · rintro ⟨rfl, rfl⟩
    rfl

theorem backupPlace_eq_iff {root : Place} {name other : String} {m n : Nat} :
    backupPlace root name m = backupPlace root other n ↔ name = other ∧ m = n := by
  simp [backupPlace, backupFile_inj]

theorem backupPlace_inj {root : Place} {name : String} {m n : Nat} :
    backupPlace root name m = backupPlace root name n ↔ m = n := by
  simp [backupPlace_eq_iff]

theorem backupPlace_ne_modelPlace (root : Place) (name other : String) (number : Nat) :
    backupPlace root name number ≠ modelPlace root other := by
  intro same
  have := congrArg List.length same
  simp [backupPlace, modelPlace] at this

theorem backupPlace_ne_shelfPlace (root : Place) (name : String) (number : Nat) :
    backupPlace root name number ≠ shelfPlace root := by
  intro same
  have := congrArg List.length same
  simp [backupPlace, shelfPlace] at this

theorem modelPlace_ne_shelfPlace (root : Place) (name : String) :
    modelPlace root name ≠ shelfPlace root := by
  intro same
  have file : name ++ "_crystal_model.txt" = "backups" := by
    simpa [modelPlace, shelfPlace] using same
  have last := congrArg (fun text : String => text.toList.getLast?) file
  simp at last

theorem modelPlace_ne_nil (root : Place) (name : String) : modelPlace root name ≠ [] := by
  simp [modelPlace]

theorem backupPlace_ne_nil (root : Place) (name : String) (number : Nat) :
    backupPlace root name number ≠ [] := by
  simp [backupPlace]

/-! ## Names -/

/-- A name that makes one component of a path. -/
structure Flat (name : String) : Prop where
  level : '/' ∉ name.toList
  clean : '\x00' ∉ name.toList

variable {archive : Archive} {root : Place} {name : String}

/-- The file system accepts the names of the backups of `name` up to `number`, and the paths to
them. -/
structure Fits (archive : Archive) (name : String) (number : Nat) : Prop where
  file : (backupFile name number).utf8ByteSize ≤ FileTree.nameLimit
  path : (archive.backupPathAt name number).utf8ByteSize ≤ FileTree.pathLimit

/-- What the name of a backup ends in. -/
def backupEnding (number : Nat) : String :=
  "_crystal_model_bkp" ++ number.repr ++ ".txt"

theorem backupFile_eq (name : String) (number : Nat) :
    backupFile name number = name ++ backupEnding number := by
  unfold backupFile backupEnding
  rw [String.append_assoc, String.append_assoc, String.append_assoc]

theorem not_mem_backupEnding {c : Char} (digit : c.isDigit = false)
    (letter : c ∉ ("_crystal_model_bkp" ++ ".txt").toList) (number : Nat) :
    c ∉ (backupEnding number).toList := by
  have digits := not_mem_repr digit number
  rw [String.toList_append, List.mem_append, not_or] at letter
  unfold backupEnding
  rw [String.toList_append, String.toList_append, List.mem_append, List.mem_append, not_or, not_or]
  exact ⟨⟨letter.1, digits⟩, letter.2⟩

theorem backupFile_level (flat : Flat name) (number : Nat) :
    '/' ∉ (backupFile name number).toList := by
  rw [backupFile_eq, String.toList_append, List.mem_append, not_or]
  exact ⟨flat.level, not_mem_backupEnding (by decide) (by decide) number⟩

theorem backupFile_clean (clean : '\x00' ∉ name.toList) (number : Nat) :
    '\x00' ∉ (backupFile name number).toList := by
  rw [backupFile_eq, String.toList_append, List.mem_append, not_or]
  exact ⟨clean, not_mem_backupEnding (by decide) (by decide) number⟩

theorem isAbsolute_backupFile (relative : Path.isAbsolute name = false) (number : Nat) :
    Path.isAbsolute (backupFile name number) = false := by
  rw [backupFile_eq]
  exact Path.isAbsolute_append relative (not_mem_backupEnding (by decide) (by decide) number)

theorem lt_length_backupFile (name : String) (number : Nat) :
    17 < (backupFile name number).length := by
  have label : "_crystal_model_bkp".length = 18 := by decide
  simp only [backupFile, String.length_append]
  omega

theorem proper_backupFile (name : String) (number : Nat) :
    backupFile name number ≠ "" ∧ backupFile name number ≠ "." ∧ backupFile name number ≠ ".." := by
  have long := lt_length_backupFile name number
  exact FileTree.proper_of_long (by omega)

/-- The name of a backup is one that a file can have. -/
theorem Fits.accepts_backup {number : Nat} (fits : Fits archive name number) (flat : Flat name) :
    FileTree.Accepts (backupFile name number) :=
  ⟨backupFile_level flat number, backupFile_clean flat.clean number, proper_backupFile name number,
    fits.file⟩

/-- The file system accepts the name of the file of the lattice called `name`, and the path to
it. -/
structure Named (archive : Archive) (name : String) : Prop extends Flat name where
  file : (name ++ "_crystal_model.txt").utf8ByteSize ≤ FileTree.nameLimit
  path : (archive.modelPath name).utf8ByteSize ≤ FileTree.pathLimit

theorem modelFile_level (level : '/' ∉ name.toList) :
    '/' ∉ (name ++ "_crystal_model.txt").toList := by
  simp [String.toList_append, level]

theorem proper_modelFile (name : String) :
    name ++ "_crystal_model.txt" ≠ "" ∧ name ++ "_crystal_model.txt" ≠ "." ∧
      name ++ "_crystal_model.txt" ≠ ".." := by
  refine FileTree.proper_of_long ?_
  have label : "_crystal_model.txt".length = 18 := by decide
  rw [String.length_append]
  omega

theorem Named.accepts (named : Named archive name) :
    FileTree.Accepts (name ++ "_crystal_model.txt") :=
  ⟨modelFile_level named.level, by simp [String.toList_append, named.clean],
    proper_modelFile name, named.file⟩

theorem accepts_shelf : FileTree.Accepts "backups" :=
  ⟨by decide, by decide, by decide, by decide⟩

theorem isAbsolute_modelFile (relative : Path.isAbsolute name = false) :
    Path.isAbsolute (name ++ "_crystal_model.txt") = false :=
  Path.isAbsolute_append relative (by decide)

/-- The path of the directory of the backups is shorter than that of any lattice. -/
theorem utf8ByteSize_backupDirectory_le (relative : Path.isAbsolute name = false) :
    archive.backupDirectory.utf8ByteSize ≤ (archive.modelPath name).utf8ByteSize := by
  have hmodel := Path.utf8ByteSize_join archive.directory (isAbsolute_modelFile relative)
  have hshelf := Path.utf8ByteSize_join archive.directory
    (Path.isAbsolute_of_not_mem accepts_shelf.level)
  have model : "_crystal_model.txt".utf8ByteSize = 18 := by decide
  have shelf : "backups".utf8ByteSize = 7 := by decide
  show (Path.join archive.directory "backups").utf8ByteSize ≤
    (Path.join archive.directory (name ++ "_crystal_model.txt")).utf8ByteSize
  rw [hmodel, hshelf, String.utf8ByteSize_append]
  omega

theorem Named.shelf (named : Named archive name) :
    archive.backupDirectory.utf8ByteSize ≤ FileTree.pathLimit := by
  have relative := Path.isAbsolute_of_not_mem named.level
  exact Nat.le_trans (utf8ByteSize_backupDirectory_le relative) named.path

/-- The file of a lattice has a shorter name and a shorter path than a backup. -/
theorem Fits.named {number : Nat} (fits : Fits archive name number) (flat : Flat name) :
    Named archive name := by
  have model : "_crystal_model.txt".utf8ByteSize = 18 := by decide
  have backup : "_crystal_model_bkp".utf8ByteSize = 18 := by decide
  have shorter : (name ++ "_crystal_model.txt").utf8ByteSize ≤
      (backupFile name number).utf8ByteSize := by
    simp only [backupFile, String.utf8ByteSize_append]
    omega
  refine ⟨flat, Nat.le_trans shorter fits.file, Nat.le_trans ?_ fits.path⟩
  -- the path of a backup has the directory `backups` and a longer name behind the same start
  have hmodel := Path.utf8ByteSize_join archive.directory
    (Path.isAbsolute_of_not_mem (modelFile_level flat.level))
  have hshelf := Path.utf8ByteSize_join archive.directory
    (Path.isAbsolute_of_not_mem accepts_shelf.level)
  have hbackup := Path.utf8ByteSize_join archive.backupDirectory
    (Path.isAbsolute_of_not_mem (backupFile_level flat number))
  have hinner := Path.utf8ByteSize_le_join archive.backupDirectory
  have hdirectory : archive.backupDirectory = Path.join archive.directory "backups" := rfl
  rw [← hdirectory] at hshelf
  change (Path.join archive.directory (name ++ "_crystal_model.txt")).utf8ByteSize ≤
    (Path.join archive.backupDirectory (backupFile name number)).utf8ByteSize
  omega

/-- Backups with smaller numbers have shorter names. -/
theorem utf8ByteSize_backupFile_mono (name : String) {m n : Nat} (le : m ≤ n) :
    (backupFile name m).utf8ByteSize ≤ (backupFile name n).utf8ByteSize := by
  have digits := Decimal.utf8ByteSize_repr_mono le
  simp only [backupFile, String.utf8ByteSize_append]
  omega

theorem utf8ByteSize_backupPathAt_mono (archive : Archive) (relative : Path.isAbsolute name = false)
    {m n : Nat} (le : m ≤ n) :
    (archive.backupPathAt name m).utf8ByteSize ≤ (archive.backupPathAt name n).utf8ByteSize := by
  have shorter := utf8ByteSize_backupFile_mono name le
  have hm := Path.utf8ByteSize_join archive.backupDirectory (isAbsolute_backupFile relative m)
  have hn := Path.utf8ByteSize_join archive.backupDirectory (isAbsolute_backupFile relative n)
  change (Path.join archive.backupDirectory (backupFile name m)).utf8ByteSize ≤
    (Path.join archive.backupDirectory (backupFile name n)).utf8ByteSize
  omega

theorem Fits.of_le {m n : Nat} (fits : Fits archive name n) (flat : Flat name) (le : m ≤ n) :
    Fits archive name m := by
  have relative := Path.isAbsolute_of_not_mem flat.level
  exact ⟨Nat.le_trans (utf8ByteSize_backupFile_mono name le) fits.file,
    Nat.le_trans (utf8ByteSize_backupPathAt_mono archive relative le) fits.path⟩

/-! ## Paths -/

section Paths

variable {tree : FileTree} {number : Nat}
  (leads : tree.LeadsTo archive.home archive.directory root)

include leads

theorem resolve_modelPath (named : Named archive name) :
    tree.resolve archive.home (archive.modelPath name) = .ok (modelPlace root name) :=
  FileTree.resolve_join leads named.accepts named.path

/-- Only a name that the file system accepts has a path that it can follow. -/
theorem named_of_resolve {place : Place} (level : '/' ∉ name.toList)
    (resolved : tree.resolve archive.home (archive.modelPath name) = .ok place) :
    Named archive name := by
  obtain ⟨accepted, short⟩ :=
    FileTree.accepts_of_resolve_join leads (modelFile_level level) (proper_modelFile name) resolved
  have clean : '\x00' ∉ name.toList := by
    intro member
    exact accepted.clean (by simp [String.toList_append, member])
  exact ⟨⟨level, clean⟩, accepted.short, short⟩

theorem resolve_backupDirectory (short : archive.backupDirectory.utf8ByteSize ≤ FileTree.pathLimit) :
    tree.resolve archive.home archive.backupDirectory = .ok (shelfPlace root) :=
  FileTree.resolve_join leads accepts_shelf short

section Shelf

variable (shelf : tree.at? (shelfPlace root) = some .directory) (flat : Flat name)

include shelf

theorem leadsTo_shelf : tree.LeadsTo archive.home archive.backupDirectory (shelfPlace root) :=
  leads.join accepts_shelf shelf

include flat

theorem resolve_backupPathAt (fits : Fits archive name number) :
    tree.resolve archive.home (archive.backupPathAt name number) =
      .ok (backupPlace root name number) := by
  have inner := leadsTo_shelf leads shelf
  have resolved := FileTree.resolve_join inner (fits.accepts_backup flat) fits.path
  simpa [shelfPlace, backupPlace, backupFile, backupPathAt] using resolved

/-- Only a number that fits has a path that can be followed. -/
theorem fits_of_resolve {place : Place}
    (resolved : tree.resolve archive.home (archive.backupPathAt name number) = .ok place) :
    Fits archive name number := by
  obtain ⟨accepted, short⟩ := FileTree.accepts_of_resolve_join (leadsTo_shelf leads shelf)
    (backupFile_level flat number) (proper_backupFile name number) resolved
  exact ⟨accepted.short, short⟩

end Shelf

end Paths

end LatticeSketch.Archive
