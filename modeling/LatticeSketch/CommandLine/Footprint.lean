/-
# LatticeSketch.CommandLine.Footprint -- what a run looks at

A run is carried out on a snapshot of the file system.  `Invocation.paths` lists the paths
that it may follow, and `FileTree.along` the places on the way of a path.  The number of a
backup depends on which ones there are, so a snapshot also holds everything in the
directory of a path from `Invocation.backups`.
-/
import LatticeSketch.CommandLine.Run

namespace LatticeSketch

set_option autoImplicit false

/-- Where the components of a path lead from a place, one after the other. -/
def Place.along (place : Place) : List String → List Place
  | [] => [place]
  | name :: rest =>
      if name = "" ∨ name = "." then Place.along place rest
      else place :: Place.along (if name = ".." then place.dropLast else place ++ [name]) rest

/-- The places that following `path` from `home` may look at, the last one its target. -/
def Path.along (home : Place) (path : String) : List Place :=
  Place.along (if isAbsolute path then [] else home) (components path)

/-- The absolute path of a place. -/
def Path.ofPlace (place : Place) : String :=
  "/" ++ String.intercalate "/" place

/-- The place of an absolute path without `..`. -/
def Path.toPlace (path : String) : Place :=
  (components path).filter fun name => name != "" && name != "."

namespace CommandLine

/-- The lattices that a task reads or writes. -/
def Task.names : Task → List String
  | create name .. | display name | expand name _ | reduce name _ => [name]
  | compile names .. => names

/-- The file that a task writes a script to. -/
def Task.output? : Task → Option String
  | compile _ output toStandardOutput _ _ => if toStandardOutput then none else some output
  | _ => none

namespace Invocation

/-- The lattices of an invocation, on an empty file system. -/
def archive (invocation : Invocation) : Archive :=
  ⟨{}, [], invocation.directory⟩

/-- A path in the directory of the backups, for every lattice. -/
def backups (invocation : Invocation) : List String :=
  invocation.task.names.map fun name => invocation.archive.backupPathAt name 1

/-- The paths that a run may follow. -/
def paths (invocation : Invocation) : List String :=
  invocation.settingsPath?.toList ++
    invocation.task.names.map invocation.archive.modelPath ++
    invocation.backups ++ invocation.task.output?.toList

end Invocation

end CommandLine

end LatticeSketch
