/-
# LatticeSketch.CommandLine.Run -- carrying out a command line

A run is a function of the arguments, the files, the working directory and the time.  It
answers with the exit code, what it prints and the files afterwards: code 0 for success,
1 for a fault and 2 for a command line that is not understood.

A fault is printed as the step that failed, followed by the chain of its causes.
-/
import LatticeSketch.CommandLine.Invocation
import LatticeSketch.Decimal.Fixed
import LatticeSketch.Files.Archive

namespace LatticeSketch.CommandLine

set_option autoImplicit false

/-- What a run leaves behind. -/
structure Exit where
  code : Nat
  output : String
  errors : String
  files : FileTree
deriving DecidableEq

/-- A fault, and the step that it stopped, if that is worth telling. -/
structure Failure where
  context? : Option String
  fault : Fault
deriving DecidableEq, Repr

/-! ## Messages -/

/-- A text whose lines after the first are indented by `width` blanks. -/
def indented (width : Nat) (text : String) : String :=
  String.ofList <| text.toList.flatMap fun c =>
    if c = '\n' then '\n' :: List.replicate width ' ' else [c]

/-- The causes beneath an error, one to a line and numbered if there are several. -/
def causeLines : List String → String
  | [] => ""
  | [cause] => "\n\nCaused by:\n    " ++ indented 4 cause
  | causes =>
      "\n\nCaused by:" ++ String.join (causes.zipIdx.map fun entry =>
        "\n    " ++ entry.2.repr ++ ": " ++ indented 7 entry.1)

/-- The report of a failure. -/
def Failure.report (failure : Failure) : String :=
  match failure.context?.toList ++ failure.fault.causes with
  | [] => ""
  | first :: causes => "Error: " ++ first ++ causeLines causes ++ "\n"

/-- The help text. -/
def usage : String :=
  "Usage: crystal-to-fdtd [OPTIONS] <COMMAND>\n\n" ++
  "Commands: init NAME, show NAME, expand NAME, reduce NAME, compile NAMES...\n" ++
  "Options: --dir, --config, --lattice-constant, --zspan, --unit\n"

def versionLine : String := "crystal-to-fdtd 0.1.0\n"

/-- The outcome of a command line that is not carried out. -/
def Stop.exit (files : FileTree) : Stop → Exit
  | usage => ⟨2, "", "error: the command line is not understood\n\n" ++ CommandLine.usage, files⟩
  | help => ⟨0, CommandLine.usage, "", files⟩
  | version => ⟨0, versionLine, "", files⟩

/-! ## Settings -/

/-- Names the step that a fault stopped. -/
def during {α : Type} (context : String) (result : Except Fault α) : Except Failure α :=
  result.mapError fun fault => ⟨some context, fault⟩

/-- The settings in a file. -/
def readSettings (files : FileTree) (home : Place) (path : String) : Except Fault Settings :=
  match files.readText home path with
  | .error fault => .error (.file fault)
  | .ok text => Settings.ofJson text

namespace Invocation

/-- The settings that an invocation asks for: those of its file, or the default ones, with
the lengths given on the command line in their place. -/
def settings (invocation : Invocation) (files : FileTree) (home : Place) :
    Except Failure Settings :=
  let base : Except Failure Settings :=
    match invocation.settingsPath? with
    | none => .ok {}
    | some path =>
        during ("Failed to read config file: " ++ Text.quoted path)
          (readSettings files home path)
  base.map fun base =>
    { base with
      latticeConstant :=
        (invocation.latticeConstant?.map fun a => invocation.unit.toMeters a).getD
          base.latticeConstant
      depth := (invocation.depth?.map fun z => invocation.unit.toMeters z).getD base.depth }

end Invocation

/-! ## Tasks -/

/-- A run that printed `output` and `errors` and succeeded. -/
def succeed (files : FileTree) (output errors : String) : Exit :=
  ⟨0, output, errors, files⟩

/-- A run that failed. -/
def fail (files : FileTree) (failure : Failure) : Exit :=
  ⟨1, "", failure.report, files⟩

/-- Opens the lattice that a task works on. -/
def openCrystal (archive : Archive) (settings : Settings) (name : String) :
    Except Failure Crystal :=
  during ("Failed to open crystal '" ++ name ++ "'")
    (Crystal.load archive name settings.latticeConstant settings.depth)

/-- The line about a lattice beneath its text. -/
def summary (crystal : Crystal) : String :=
  crystal.name ++ ": " ++ crystal.columns.repr ++ " x " ++ crystal.height.repr ++
    " sites, first_null=" ++ (if crystal.grid.evenShifted then "true" else "false") ++
    ", a=" ++ Decimal.fixed 1 (LengthUnit.nanometer.ofMeters crystal.latticeConstant) ++ " nm\n"

/-- Ends a run with what a write left. -/
def finish {α : Type} (context? : Option String) (written : Written Archive α) : Exit :=
  match written.result with
  | .error fault => fail written.store.files ⟨context?, fault⟩
  | .ok () => succeed written.store.files "" ""

/-- Opens a lattice and edits it. -/
def edit (archive : Archive) (settings : Settings) (name : String)
    (change : Crystal → Written Archive Crystal) : Exit :=
  match openCrystal archive settings name with
  | .error failure => fail archive.files failure
  | .ok crystal => finish none (change crystal)

/-- Writes a script to a file. -/
def writeScript (files : FileTree) (home : Place) (output script : String) : Exit :=
  match files.write home output script.toUTF8 with
  | .error fault =>
      fail files ⟨some ("Failed to write output file: " ++ Text.quoted output), .file fault⟩
  | .ok files =>
      succeed files "" ("Generated Lumerical script: " ++ Text.quoted output ++ "\n")

/-- Carries out a task. -/
def Task.run (archive : Archive) (settings : Settings) (time : String) : Task → Exit
  | create name columns height evenShifted =>
      finish (some ("Failed to write lattice for '" ++ name ++ "'"))
        (Grid.generate { evenShifted := evenShifted } archive name columns height)
  | display name =>
      match openCrystal archive settings name with
      | .error failure => fail archive.files failure
      | .ok crystal => succeed archive.files (crystal.grid.model ++ summary crystal) ""
  | expand name sites => edit archive settings name fun crystal => crystal.expand archive sites
  | reduce name sites => edit archive settings name fun crystal => crystal.reduce archive sites
  | compile names output toStandardOutput boundary? parts =>
      let settings := { settings with boundary := boundary?.getD settings.boundary }
      match during "Compilation failed" (sceneScript archive names settings parts time) with
      | .error failure => fail archive.files failure
      | .ok script =>
          if toStandardOutput then succeed archive.files (script ++ "\n") ""
          else writeScript archive.files archive.home output script

/-- Carries out what a command line asks for. -/
def Invocation.run (invocation : Invocation) (files : FileTree) (home : Place) (time : String) :
    Exit :=
  match invocation.settings files home with
  | .error failure => fail files failure
  | .ok settings => invocation.task.run ⟨files, home, invocation.directory⟩ settings time

/-- Carries out a command line. -/
def run (arguments : List String) (files : FileTree) (home : Place) (time : String) : Exit :=
  match Invocation.ofArguments arguments with
  | .error reason => reason.exit files
  | .ok invocation => invocation.run files home time

end LatticeSketch.CommandLine
