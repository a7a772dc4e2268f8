/-
# LatticeSketch.Main -- the program

The program takes a snapshot of the files that its command line is about, carries the
command line out on the snapshot and writes back what has changed.
-/
import LatticeSketch.CommandLine.Footprint
import Std.Time.Format

namespace LatticeSketch.CommandLine

set_option autoImplicit false

/-- Adds what is found at `place` to a snapshot.  Only regular files have a content. -/
def look (files : FileTree) (place : Place) : IO FileTree := do
  let path := (← IO.currentDir) / Path.ofPlace place
  unless ← path.pathExists do return files
  match (← path.metadata).type with
  | .dir => return files.put place .directory
  | .file => return files.put place (.file (← IO.FS.readBinFile path))
  | _ => return files.put place (.file .empty)

/-- Adds what is found in the directory at `place` to a snapshot. -/
def lookInside (files : FileTree) (place : Place) : IO FileTree := do
  let path := (← IO.currentDir) / Path.ofPlace place
  unless ← path.isDir do return files
  (← path.readDir).foldlM (fun files entry => look files (place ++ [entry.fileName])) files

/-- The snapshot that an invocation needs. -/
def snapshot (home : Place) (invocation : Invocation) : IO FileTree := do
  let files ← (invocation.paths.flatMap (Path.along home)).foldlM look {}
  let backups := invocation.backups.filterMap fun path => (Path.along home path).dropLast.getLast?
  backups.foldlM lookInside files

/-- Writes the entries of a snapshot that are not as they were before, oldest first. -/
def writeBack (before after : FileTree) : IO Unit := do
  for (place, entry) in after.entries.reverse do
    unless before.at? place = some entry do
      match entry with
      | .directory => IO.FS.createDirAll (Path.ofPlace place)
      | .file content => IO.FS.writeBinFile (Path.ofPlace place) content

/-- The present time in UTC. -/
def now : IO String := do
  let moment ← Std.Time.Timestamp.now
  let time := Std.Time.DateTime.ofTimestamp moment Std.Time.TimeZone.ZoneRules.UTC
  return time.format "uuuu-MM-dd'T'HH:mm:ss.SSSSSSSSSxxx"

/-- Carries out a command line on the file system. -/
def perform (arguments : List String) : IO UInt32 := do
  let home := Path.toPlace (← IO.currentDir).toString
  let files ← match Invocation.ofArguments arguments with
    | .ok invocation => snapshot home invocation
    | .error _ => pure {}
  let exit := run arguments files home (← now)
  writeBack files exit.files
  IO.print exit.output
  IO.eprint exit.errors
  return exit.code.toUInt32

end LatticeSketch.CommandLine

/-- The entry point. -/
def main (arguments : List String) : IO UInt32 :=
  LatticeSketch.CommandLine.perform arguments
