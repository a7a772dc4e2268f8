/-
# LatticeSketch.CommandLine.Arguments -- options, values and names

A command line is a list of arguments.  An argument that begins with two hyphens is a long
option, with its value after an equals sign or in the next argument; one that begins with a
single hyphen is a cluster of short options, of which the last may have its value directly
behind it.  After the argument `--` everything is a name, and so is a hyphen alone.

A value in an argument of its own may not look like an option.  An option is given at most
once.  Scanning goes from left to right and stops at the first argument that does not fit,
or that asks for help or for the version.
-/
namespace LatticeSketch.CommandLine

set_option autoImplicit false

/-- Why a command line is not carried out. -/
inductive Stop where
  | usage
  | help
  | version
deriving DecidableEq, Repr

/-- What an option does. -/
inductive OptionKind where
  | flag
  /-- Takes a value, of which it accepts some. -/
  | valued (accepts : String → Bool)
  | stops (reason : Stop)

/-- An option: its key, the spellings it has and what it does. -/
structure OptionSpec where
  key : String
  long? : Option String
  short? : Option Char
  kind : OptionKind

/-- How many names a command takes. -/
inductive Names where
  | none
  | one
  | some
deriving DecidableEq, Repr

/-- What may follow a command: options, further commands, names. -/
structure Grammar where
  options : List OptionSpec
  commands : List String
  names : Names

/-- What has been given: options with their values (empty for flags), names, and the
command that ended the scan with the arguments behind it. -/
structure Given where
  options : List (String × String) := []
  names : List String := []
  command? : Option (String × List String) := none
deriving DecidableEq, Repr

namespace Given

def has (given : Given) (key : String) : Bool :=
  given.options.any fun option => option.1 == key

/-- The value given for an option. -/
def value? (given : Given) (key : String) : Option String :=
  given.options.lookup key

/-- Notes an option; one that was given before does not fit. -/
def addOption (given : Given) (key value : String) : Except Stop Given :=
  if given.has key then .error .usage
  else .ok { given with options := given.options ++ [(key, value)] }

end Given

namespace OptionSpec

/-- Notes an option that has nothing behind it; answers with the option if it awaits a value. -/
def bare (option : OptionSpec) (given : Given) : Except Stop (Given × Option OptionSpec) :=
  match option.kind with
  | .flag => (given.addOption option.key "").map fun given => (given, none)
  | .valued _ => .ok (given, some option)
  | .stops reason => .error reason

/-- Notes an option together with its value. -/
def withValue (option : OptionSpec) (value : String) (given : Given) : Except Stop Given :=
  match option.kind with
  | .valued accepts => if accepts value then given.addOption option.key value else .error .usage
  | _ => .error .usage

def takesValue (option : OptionSpec) : Bool :=
  option.kind matches .valued _

end OptionSpec

namespace Grammar

/-- Reads a long option without its hyphens. -/
def long (grammar : Grammar) (body : List Char) (given : Given) :
    Except Stop (Given × Option OptionSpec) :=
  let name := String.ofList (body.takeWhile (· != '='))
  match grammar.options.find? (fun option => option.long? == some name),
      body.dropWhile (· != '=') with
  | none, _ => .error .usage
  | some option, [] => option.bare given
  | some option, _ :: value =>
      (option.withValue (String.ofList value) given).map fun given => (given, none)

/-- Reads a cluster of short options without its hyphen. -/
def cluster (grammar : Grammar) (given : Given) :
    List Char → Except Stop (Given × Option OptionSpec)
  | [] => .ok (given, none)
  | c :: rest =>
      match grammar.options.find? fun option => option.short? == some c with
      | none => .error .usage
      | some option =>
          match option.takesValue, rest with
          | true, '=' :: value =>
              (option.withValue (String.ofList value) given).map fun given => (given, none)
          | true, d :: value =>
              (option.withValue (String.ofList (d :: value)) given).map fun given => (given, none)
          | _, rest =>
              match option.bare given with
              | .error reason => .error reason
              | .ok (given, some awaiting) => .ok (given, some awaiting)
              | .ok (given, none) => grammar.cluster given rest

/-- Notes a name. -/
def addName (grammar : Grammar) (given : Given) (name : String) : Except Stop Given :=
  let named := { given with names := given.names ++ [name] }
  match grammar.names with
  | .none => .error .usage
  | .one => if given.names.isEmpty then .ok named else .error .usage
  | .some => .ok named

/-- Whether an argument is an option, of either kind, or the end of the options. -/
def isOption (argument : String) : Bool :=
  match argument.toList with
  | '-' :: _ :: _ => true
  | _ => false

/-- Reads an argument that is an option. -/
def readOption (grammar : Grammar) (given : Given) (argument : String) :
    Except Stop (Given × Option OptionSpec) :=
  match argument.toList with
  | '-' :: '-' :: body => grammar.long body given
  | '-' :: body => grammar.cluster given body
  | _ => .error .usage

/-- Notes the names behind the end of the options. -/
def onlyNames (grammar : Grammar) (given : Given) : List String → Except Stop Given
  | [] => .ok given
  | argument :: rest =>
      match grammar.addName given argument with
      | .error reason => .error reason
      | .ok given => grammar.onlyNames given rest

/-- Reads arguments up to the first that is a command. -/
def scan (grammar : Grammar) (given : Given) : List String → Except Stop Given
  | [] => .ok given
  | argument :: rest =>
      if grammar.commands.contains argument then
        .ok { given with command? := some (argument, rest) }
      else if argument = "--" then grammar.onlyNames given rest
      else if isOption argument then
        match grammar.readOption given argument with
        | .error reason => .error reason
        | .ok (given, none) => grammar.scan given rest
        | .ok (given, some option) =>
            match rest with
            | [] => .error .usage
            | value :: rest =>
                if isOption value then .error .usage
                else match option.withValue value given with
                  | .error reason => .error reason
                  | .ok given => grammar.scan given rest
      else match grammar.addName given argument with
        | .error reason => .error reason
        | .ok given => grammar.scan given rest

/-- Reads all arguments of a command that has no commands of its own and needs a name. -/
def scanAll (grammar : Grammar) (arguments : List String) : Except Stop Given :=
  match grammar.scan {} arguments with
  | .error reason => .error reason
  | .ok given => if given.names.isEmpty then .error .usage else .ok given

end Grammar

end LatticeSketch.CommandLine
