/-
# LatticeSketch.Files.Tree -- a file system as a value

A `FileTree` maps places to files and directories.  A place is the list of names on the
way from the root, and the root itself is always a directory.  The operations take a
working directory and a path as text.  `resolve` follows a path to the place of its last
component: everything before that has to be a directory, and `..` leads from a directory
to the one that holds it.

An operation that fails answers with the reason and changes nothing; one that succeeds
answers with the tree afterwards.
-/
import LatticeSketch.Fault
import LatticeSketch.Files.Path

namespace LatticeSketch

set_option autoImplicit false

/-- The names on the way from the root. -/
abbrev Place := List String

/-- What is found at a place. -/
inductive Entry where
  | file (content : ByteArray)
  | directory

/-- Files are the same when they hold the same bytes. -/
instance : DecidableEq Entry
  | .directory, .directory => isTrue rfl
  | .file first, .file second =>
      if same : first.data = second.data then isTrue (congrArg Entry.file (ByteArray.ext same))
      else isFalse fun equal => same (congrArg ByteArray.data (Entry.file.inj equal))
  | .directory, .file _ => isFalse nofun
  | .file _, .directory => isFalse nofun

/-- Files and directories by place, at most one entry for each place. -/
structure FileTree where
  entries : List (Place × Entry) := []
deriving DecidableEq

namespace FileTree

/-- What is found at `place`. -/
def at? (tree : FileTree) (place : Place) : Option Entry :=
  if place = [] then some .directory else tree.entries.lookup place

/-- The tree with `entry` at `place`. -/
def put (tree : FileTree) (place : Place) (entry : Entry) : FileTree :=
  ⟨(place, entry) :: tree.entries.filter fun other => other.1 != place⟩

/-- The longest name that a file system accepts, in bytes. -/
def nameLimit : Nat := 255

/-- The longest path that a file system accepts, in bytes. -/
def pathLimit : Nat := 4095

/-- Follows components from `place`, which is a directory, to the place of the last one. -/
def follow (tree : FileTree) (place : Place) : List String → Except FileFault Place
  | [] => .ok place
  | name :: rest =>
      if name = "" ∨ name = "." then tree.follow place rest
      else if name = ".." then tree.follow place.dropLast rest
      else if nameLimit < name.utf8ByteSize then .error .nameTooLong
      else if rest.isEmpty then .ok (place ++ [name])
      else match tree.at? (place ++ [name]) with
        | some .directory => tree.follow (place ++ [name]) rest
        | some (.file _) => .error .notADirectory
        | none => .error .notFound

/-- Where following `path` from the directory `home` begins; some texts are no path. -/
def start (home : Place) (path : String) : Except FileFault Place :=
  if path.toList.contains '\x00' then .error .nulInName
  else if path = "" then .error .notFound
  else if pathLimit < path.utf8ByteSize then .error .nameTooLong
  else .ok (if Path.isAbsolute path then [] else home)

/-- The place that `path` leads to from the directory `home`; its last component need not
exist. -/
def resolve (tree : FileTree) (home : Place) (path : String) : Except FileFault Place :=
  match start home path with
  | .error fault => .error fault
  | .ok place => tree.follow place (Path.components path)

/-- What `path` leads to. -/
def find (tree : FileTree) (home : Place) (path : String) : Except FileFault Entry :=
  match tree.resolve home path with
  | .error fault => .error fault
  | .ok place =>
      match tree.at? place with
      | none => .error .notFound
      | some entry => .ok entry

/-- Whether `path` leads to a file or a directory. -/
def holds (tree : FileTree) (home : Place) (path : String) : Bool :=
  (tree.find home path).isOk

/-- The content of a file. -/
def read (tree : FileTree) (home : Place) (path : String) : Except FileFault ByteArray :=
  match tree.find home path with
  | .error fault => .error fault
  | .ok .directory => .error .isADirectory
  | .ok (.file content) => .ok content

/-- The content of a file that has to be UTF-8. -/
def readText (tree : FileTree) (home : Place) (path : String) : Except FileFault String :=
  match tree.read home path with
  | .error fault => .error fault
  | .ok content =>
      match String.fromUTF8? content with
      | none => .error .notText
      | some text => .ok text

/-- Why a path that cannot be followed cannot be written to, given why it cannot be followed.
A path that ends in a slash is taken for a directory as soon as the way to its last name is
there; that name is not looked at. -/
def writeFault (tree : FileTree) (home : Place) (path : String) (fault : FileFault) :
    FileFault :=
  match start home path with
  | .error fault => fault
  | .ok place =>
      if Path.endsInSlash path && (tree.follow place (Path.way path ++ ["."])).isOk then
        .isADirectory
      else fault

/-- Gives a file the content, whether or not it was there before. -/
def write (tree : FileTree) (home : Place) (path : String) (content : ByteArray) :
    Except FileFault FileTree :=
  match tree.resolve home path with
  | .error fault => .error (tree.writeFault home path fault)
  | .ok place =>
      match tree.at? place with
      | some .directory => .error .isADirectory
      | _ => .ok (tree.put place (.file content))

/-- Sees to it that a directory is at `path`, in a directory that is already there; it makes
no other directory. -/
def ensureDirectory (tree : FileTree) (home : Place) (path : String) :
    Except FileFault FileTree :=
  match tree.resolve home path with
  | .error fault => .error fault
  | .ok place =>
      match tree.at? place with
      | some .directory => .ok tree
      | some (.file _) => .error .alreadyExists
      | none => .ok (tree.put place .directory)

/-- Copies the file `source` to `target`. -/
def copy (tree : FileTree) (home : Place) (source target : String) :
    Except FileFault FileTree :=
  match tree.read home source with
  | .error .isADirectory => .error .notRegular
  | .error fault => .error fault
  | .ok content => tree.write home target content

theorem lookup_filter_ne (entries : List (Place × Entry)) {place other : Place}
    (differ : other ≠ place) :
    (entries.filter fun entry => entry.1 != place).lookup other = entries.lookup other := by
  have apart : (other == place) = false := beq_eq_false_iff_ne.2 differ
  induction entries with
  | nil => rfl
  | cons first rest ih =>
      obtain ⟨key, entry⟩ := first
      by_cases same : key = place
      · subst same
        simp [List.lookup_cons, apart, ih]
      · simp [List.lookup_cons, same, ih]

/-- After a `put` its place holds the new entry and every other place what it held. -/
theorem at?_put (tree : FileTree) (place other : Place) (entry : Entry) :
    (tree.put place entry).at? other =
      if other = [] then some .directory
      else if other = place then some entry else tree.at? other := by
  unfold at? put
  split
  · rfl
  · by_cases same : other = place
    · simp [same]
    · simp [List.lookup_cons, beq_eq_false_iff_ne.2 same, same, lookup_filter_ne _ same]

end FileTree

end LatticeSketch
