/-
# LatticeSketch.CommandLine.Invocation -- what a command line asks for

`Invocation.ofArguments` reads a command line against the options of this tool.  Options
that concern every command come before the command, its own options and names after it.
-/
import LatticeSketch.CommandLine.Arguments
import LatticeSketch.Decimal.Reading
import LatticeSketch.Length
import LatticeSketch.Scene.Build
import LatticeSketch.Settings.Reading

namespace LatticeSketch.CommandLine

set_option autoImplicit false

/-- One command of the tool. -/
inductive Task where
  /-- Keep a checkerboard under a name. -/
  | create (name : String) (columns height : Nat) (evenShifted : Bool)
  /-- Print a lattice and its size. -/
  | display (name : String)
  | expand (name : String) (sites : Nat)
  | reduce (name : String) (sites : Nat)
  /-- Write the script of a scene to a file, or to the standard output. -/
  | compile (names : List String) (output : String) (toStandardOutput : Bool)
      (boundary? : Option Boundary) (parts : SceneParts)
deriving DecidableEq, Repr

/-- A whole command line; lengths are in `unit`. -/
structure Invocation where
  directory : String
  settingsPath? : Option String
  latticeConstant? : Option Float
  depth? : Option Float
  unit : LengthUnit
  task : Task
deriving DecidableEq, Repr

/-- A count, with an optional plus sign. -/
def readCount? (text : String) : Option Nat :=
  Decimal.readNat? countBound text

/-! ## Options -/

def isCount (text : String) : Bool := (readCount? text).isSome

def isNumber (text : String) : Bool := (Decimal.readFloat? text).isSome

/-- A path may be anything but empty. -/
def isPath (text : String) : Bool := text != ""

def helpOption : OptionSpec := ⟨"help", some "help", some 'h', .stops .help⟩

/-- An option whose value is a count. -/
def countOption (key : String) (long? : Option String) (short? : Option Char) : OptionSpec :=
  ⟨key, long?, short?, .valued isCount⟩

/-- A flag with a long spelling only. -/
def longFlag (key : String) : OptionSpec := ⟨key, some key, none, .flag⟩

/-- The options before the command, and the commands. -/
def mainGrammar : Grammar where
  options := [
    helpOption,
    ⟨"version", some "version", some 'V', .stops .version⟩,
    ⟨"dir", some "dir", some 'd', .valued isPath⟩,
    ⟨"config", some "config", some 'c', .valued isPath⟩,
    ⟨"lattice-constant", some "lattice-constant", none, .valued isNumber⟩,
    ⟨"zspan", some "zspan", none, .valued isNumber⟩,
    ⟨"unit", some "unit", none, .valued fun text => (LengthUnit.ofName? text).isSome⟩]
  commands := ["init", "show", "expand", "reduce", "compile", "help"]
  names := .none

def createGrammar : Grammar where
  options := [helpOption, countOption "x" (some "x") none, countOption "y" (some "y") none,
    longFlag "first-null"]
  commands := []
  names := .one

def displayGrammar : Grammar where
  options := [helpOption]
  commands := []
  names := .one

def resizeGrammar : Grammar where
  options := [helpOption, countOption "n" none (some 'n')]
  commands := []
  names := .one

def compileGrammar : Grammar where
  options := [
    helpOption,
    ⟨"output", some "output", some 'o', .valued isPath⟩,
    longFlag "stdout",
    ⟨"boundary", some "boundary", none, .valued fun text => (Boundary.ofName? text).isSome⟩,
    longFlag "movie",
    longFlag "no-sources",
    longFlag "no-monitors",
    longFlag "no-base",
    longFlag "no-analysis"]
  commands := []
  names := .some

/-! ## Commands -/

/-- The count given for an option, or `default`. -/
def Given.count (given : Given) (key : String) (default : Nat) : Nat :=
  ((given.value? key).bind readCount?).getD default

/-- The only name given. -/
def Given.name (given : Given) : String :=
  given.names.head?.getD ""

def createTask (given : Given) : Task :=
  .create given.name (given.count "x" 5) (given.count "y" 5) (given.has "first-null")

def displayTask (given : Given) : Task :=
  .display given.name

def expandTask (given : Given) : Task :=
  .expand given.name (given.count "n" 1)

def reduceTask (given : Given) : Task :=
  .reduce given.name (given.count "n" 1)

def compileTask (given : Given) : Task :=
  .compile given.names ((given.value? "output").getD "scene.lsf") (given.has "stdout")
    ((given.value? "boundary").bind Boundary.ofName?)
    { sources := !given.has "no-sources"
      monitors := !given.has "no-monitors"
      base := !given.has "no-base"
      analysis := !given.has "no-analysis"
      movie := given.has "movie" }

/-- What the arguments behind `help` ask for: help on the tool or on one of its commands. -/
def helpOn : List String → Stop
  | [] => .help
  | [command] => if mainGrammar.commands.contains command then .help else .usage
  | _ => .usage

/-- The task of a command and the arguments behind it. -/
def readTask (command : String) (arguments : List String) : Except Stop Task :=
  match command with
  | "init" => (createGrammar.scanAll arguments).map createTask
  | "show" => (displayGrammar.scanAll arguments).map displayTask
  | "expand" => (resizeGrammar.scanAll arguments).map expandTask
  | "reduce" => (resizeGrammar.scanAll arguments).map reduceTask
  | "compile" => (compileGrammar.scanAll arguments).map compileTask
  | _ => .error (helpOn arguments)

/-- What a command line asks for. -/
def Invocation.ofArguments (arguments : List String) : Except Stop Invocation :=
  match mainGrammar.scan {} arguments with
  | .error reason => .error reason
  | .ok given =>
      match given.command? with
      | none => .error .usage
      | some (command, rest) =>
          (readTask command rest).map fun task =>
            { directory := (given.value? "dir").getD "."
              settingsPath? := given.value? "config"
              latticeConstant? := (given.value? "lattice-constant").bind Decimal.readFloat?
              depth? := (given.value? "zspan").bind Decimal.readFloat?
              unit := ((given.value? "unit").bind LengthUnit.ofName?).getD .nanometer
              task := task }

end LatticeSketch.CommandLine
