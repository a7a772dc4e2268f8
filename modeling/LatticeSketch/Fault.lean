/-
# LatticeSketch.Fault -- why a request is refused

Every refusal has one cause, and the wording of a cause is in one place.  A symbol that
the catalog does not know is never a fault: it stands for an empty site.
-/
namespace LatticeSketch

set_option autoImplicit false

/-- Why the file system refuses an operation. -/
inductive FileFault where
  | notFound
  /-- A directory is asked for where a file is. -/
  | alreadyExists
  /-- The way to a file leads through a file. -/
  | notADirectory
  | isADirectory
  | nameTooLong
  /-- Only files can be copied. -/
  | notRegular
  | nulInName
  /-- The content is not UTF-8. -/
  | notText
deriving DecidableEq, Repr

/-- The system's own wording, with the number of the error where there is one. -/
def FileFault.message : FileFault → String
  | notFound => "No such file or directory (os error 2)"
  | alreadyExists => "File exists (os error 17)"
  | notADirectory => "Not a directory (os error 20)"
  | isADirectory => "Is a directory (os error 21)"
  | nameTooLong => "File name too long (os error 36)"
  | notRegular => "the source path is neither a regular file nor a symlink to a regular file"
  | nulInName => "file name contained an unexpected NUL byte"
  | notText => "stream did not contain valid UTF-8"

/-- Why a JSON text is refused: it breaks the grammar, a value does not fit its
field, or the text ends too soon. -/
inductive JsonFault where
  | malformed
  | wrongValue
  | unfinished
deriving DecidableEq, Repr

/-- The detail that follows the refusal of a settings text. -/
def JsonFault.message : JsonFault → String
  | malformed => "the text is not well-formed"
  | wrongValue => "a value does not fit its field"
  | unfinished => "the text ends too soon"

/-- What needs at least one crystal in the scene before it can be placed. -/
inductive Placing where
  | sources
  | monitors
  | base
deriving DecidableEq, Repr

/-- What messages call it. -/
def Placing.name : Placing → String
  | sources => "sources"
  | monitors => "monitors"
  | base => "the base"

/-- Why a request is refused. -/
inductive Fault where
  /-- No lattice is stored under `name`; it would be at `path`, given as messages show it. -/
  | missingModel (name path : String)
  /-- A row has another number of sites than the topmost one. -/
  | raggedRow (row expected found : Nat)
  /-- A curve has a neighbour outside the lattice, and the boundary policy forbids it. -/
  | outsideNeighbour (row column : Nat)
  /-- Removing `sites` sites would leave nothing of `row`, which has `width` characters. -/
  | tooNarrow (sites row width : Nat)
  | noCrystals (placing : Placing)
  | settings (cause : JsonFault)
  | file (cause : FileFault)
deriving DecidableEq, Repr

namespace Fault

/-- The sentence that reports a fault. -/
def message : Fault → String
  | missingModel name path =>
      "no lattice model found for '" ++ name ++ "' (expected " ++ path ++
        "); run `init` to create one"
  | raggedRow row expected found =>
      "malformed lattice: row " ++ row.repr ++ " has " ++ found.repr ++ " sites, expected " ++
        expected.repr
  | outsideNeighbour row column =>
      "curve at row " ++ row.repr ++ ", column " ++ column.repr ++
        " needs neighbours outside the lattice"
  | tooNarrow sites row width =>
      "invalid dimension: cannot remove " ++ sites.repr ++ " sites from row " ++ row.repr ++
        ", which is only " ++ width.repr ++ " characters wide"
  | noCrystals placing =>
      "scene has no crystals; add one before placing " ++ placing.name
  | settings cause => "invalid configuration: " ++ cause.message
  | file cause => cause.message

/-- The chain of sentences from the fault to its root; only a settings fault has one beneath it. -/
def causes : Fault → List String
  | settings cause => [message (settings cause), cause.message]
  | fault => [fault.message]

end Fault

end LatticeSketch
