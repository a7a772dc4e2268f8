/-
# LatticeSketch.Files.Path -- paths as text

A path is a text whose components are separated by slashes; one that begins with a slash
starts at the root of the file system, any other at the working directory.
-/
import LatticeSketch.Text.Words

namespace LatticeSketch.Path

set_option autoImplicit false

/-- Whether `path` starts at the root. -/
def isAbsolute (path : String) : Bool :=
  path.toList.head? == some '/'

/-- The components of `path`; empty ones come from adjacent, leading and trailing slashes. -/
def components (path : String) : List String :=
  (Text.splitAt '/' path.toList).map String.ofList

/-- `path` as seen from `directory`: an absolute path stays as it is. -/
def join (directory path : String) : String :=
  if isAbsolute path || directory == "" then path
  else if directory.toList.getLast? == some '/' then directory ++ path
  else directory ++ "/" ++ path

/-- Whether `path` ends in a slash, which asks for a directory. -/
def endsInSlash (path : String) : Bool :=
  path.toList.getLast? == some '/'

/-- The components of `path` before its last name. -/
def way (path : String) : List String :=
  (((components path).reverse.dropWhile (· == "")).drop 1).reverse

end LatticeSketch.Path
