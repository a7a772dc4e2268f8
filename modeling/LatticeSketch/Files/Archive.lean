/-
# LatticeSketch.Files.Archive -- lattices kept as files

An archive keeps the lattice called `name` in the file `<name>_crystal_model.txt` of its
directory.  Saving over a lattice copies the old text first, to the file
`backups/<name>_crystal_model_bkp<N>.txt` with the smallest `N` from 1 that is free
(`backupPath`), so nothing that was ever kept is overwritten.

Saving stops at the first file operation that fails; what was done before it stays done.

Two limits of the archive are left out.  Its numbers of backups are words of 32 bits, so a
name can run out of them, which here it never does.  And it makes `backups` together with
the directories above it where these are missing, which here are not made
(`FileTree.ensureDirectory` answers `notFound`).  A lattice is copied aside only if its file
is there, so the second limit needs a name that is an absolute path, beside an archive whose
directory does not exist.
-/
import LatticeSketch.Crystal
import LatticeSketch.Files.Tree
import LatticeSketch.Text.Quoted

namespace LatticeSketch

set_option autoImplicit false

/-- A directory of lattices: the file system it is part of, the working directory and the
path of the directory from there. -/
structure Archive where
  files : FileTree
  home : Place
  directory : String
deriving DecidableEq

namespace Archive

/-- The file of the lattice called `name`. -/
def modelPath (archive : Archive) (name : String) : String :=
  Path.join archive.directory (name ++ "_crystal_model.txt")

/-- The directory of the lattices that were saved over. -/
def backupDirectory (archive : Archive) : String :=
  Path.join archive.directory "backups"

/-- The file of backup `number` of the lattice called `name`. -/
def backupPathAt (archive : Archive) (name : String) (number : Nat) : String :=
  Path.join archive.backupDirectory (name ++ "_crystal_model_bkp" ++ number.repr ++ ".txt")

/-- Whether there is a file or a directory at `path`. -/
def holds (archive : Archive) (path : String) : Bool :=
  archive.files.holds archive.home path

/-- The smallest free backup number from `number` on, if one of the next `count` is free. -/
def freeBackup (archive : Archive) (name : String) (number : Nat) : Nat → Nat
  | 0 => number
  | count + 1 =>
      if archive.holds (archive.backupPathAt name number) then
        archive.freeBackup name (number + 1) count
      else number

/-- The file that the next backup of `name` goes to.  There are no more backups than entries
in the file system, so a free number is found behind as many. -/
def backupPath (archive : Archive) (name : String) : String :=
  archive.backupPathAt name (archive.freeBackup name 1 archive.files.entries.length)

/-- Copies the lattice called `name` aside, and answers with the path of the copy; nothing
happens if there is none. -/
def backUp (archive : Archive) (name : String) : Except Fault (Option String) × Archive :=
  if archive.holds (archive.modelPath name) then
    match archive.files.ensureDirectory archive.home archive.backupDirectory with
    | .error fault => (.error (.file fault), archive)
    | .ok files =>
        let opened := { archive with files := files }
        let target := opened.backupPath name
        match files.copy archive.home (archive.modelPath name) target with
        | .error fault => (.error (.file fault), opened)
        | .ok files => (.ok (some target), { archive with files := files })
  else (.ok none, archive)

/-- The text of the lattice called `name`. -/
def load (archive : Archive) (name : String) : Except Fault String :=
  if archive.holds (archive.modelPath name) then
    (archive.files.readText archive.home (archive.modelPath name)).mapError .file
  else .error (.missingModel name (Text.quoted (archive.modelPath name)))

/-- Keeps `text` as the lattice called `name`, copying the one kept before aside. -/
def save (archive : Archive) (name text : String) : Except Fault Unit × Archive :=
  match archive.backUp name with
  | (.error fault, archive) => (.error fault, archive)
  | (.ok _, archive) =>
      match archive.files.write archive.home (archive.modelPath name) text.toUTF8 with
      | .error fault => (.error (.file fault), archive)
      | .ok files => (.ok (), { archive with files := files })

instance : LatticeStore Archive where
  load := load
  save := save

end Archive

end LatticeSketch
