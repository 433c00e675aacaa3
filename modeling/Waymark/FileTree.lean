import Waymark.Path
import Waymark.Text.Utf8

/-!
# Waymark.FileTree

A file system as a value: directories and regular files by place, and the
operations that handlers perform on it.

Design points:

* a *place* is the list of names from the working directory. Places outside of
  it begin with `..` or, for absolute paths, with `/`; these beginnings are
  directories that always exist;
* `locate` follows a path name by name, as an operating system does: what a name
  is looked up in must be a directory, and `..` leads to the directory above;
* a write can break off after some bytes, and the tree then holds these. Which
  writes do is not for this library to decide, so the tree says it (`room`). A
  write that is reported as done is done;
* writing does not take time: the time of a file depends on its place alone.
-/

namespace Waymark

/-- Why an operation on a file fails. -/
inductive FileError where
  /-- Nothing is there. -/
  | notFound
  /-- Something is there already. -/
  | alreadyExists
  /-- A name is looked up in a regular file. -/
  | notADirectory
  /-- A directory is read or written as a file. -/
  | isADirectory
  /-- A name or a path is longer than the system allows. -/
  | nameTooLong
  /-- A path contains the character NUL. -/
  | nulInPath
  /-- The content of a file is not UTF-8. -/
  | notText
  /-- A file ends before all bytes asked for are read. -/
  | unexpectedEnd
  /-- There is no room for all bytes to be written. -/
  | noSpace
  deriving DecidableEq, Repr

/-- The error as an operating system words it. -/
def FileError.message : FileError → String
  | notFound => "No such file or directory (os error 2)"
  | alreadyExists => "File exists (os error 17)"
  | notADirectory => "Not a directory (os error 20)"
  | isADirectory => "Is a directory (os error 21)"
  | nameTooLong => "File name too long (os error 36)"
  | nulInPath => "file name contained an unexpected NUL byte"
  | notText => "stream did not contain valid UTF-8"
  | unexpectedEnd => "early eof"
  | noSpace => "No space left on device (os error 28)"

/-- The names from the working directory to a file or a directory. -/
abbrev Place := List String

/-- What can stand at a place. -/
inductive Node where
  /-- A regular file with its content. -/
  | file (content : Bytes)
  /-- A directory. -/
  | directory
  deriving DecidableEq, Repr

/-- A file system. -/
structure FileTree where
  /-- The files and directories below the working directory, each place once. -/
  nodes : List (Place × Node) := []
  /-- The times of files, in seconds since the beginning of 1970, where they
  differ from `clock`. -/
  times : List (Place × Nat) := []
  /-- The time of all other files. -/
  clock : Nat := 0
  /-- How many bytes there is room for in each of the writes to come, in turn. In
  those after them there is room for all. -/
  room : List Nat := []
  deriving Inhabited

/-- A change that has failed on its way. -/
structure FailedChange where
  /-- Why it has failed. -/
  error : FileError
  /-- The tree that it has left. -/
  left : FileTree

namespace FileTree

/-! ### Places -/

/-- Whether a place is one of the directories that always exist: the working
directory, those above it, and the root of the file system. -/
def isBase (place : Place) : Bool := place = ["/"] || place.all (· = "..")

/-- The place of the directory above. -/
def above (place : Place) : Place :=
  if place = ["/"] then place
  else if place.all (· = "..") then ".." :: place
  else place.dropLast

/-- What stands at a place. -/
def node? (tree : FileTree) (place : Place) : Option Node :=
  if isBase place then some .directory else tree.nodes.lookup place

/-- Follow the parts of a path from a place. The place reached need not exist,
but all that lead to it do. -/
def walk (tree : FileTree) (place : Place) : List String → Except FileError Place
  | [] => .ok place
  | part :: rest =>
    match tree.node? place with
    | none => .error .notFound
    | some (.file _) => .error .notADirectory
    | some .directory =>
      if part = "" ∨ part = "." then tree.walk place rest
      else if part = ".." then tree.walk (above place) rest
      else if 255 < part.utf8ByteSize then .error .nameTooLong
      else tree.walk (place ++ [part]) rest

/-- The place that a path stands for. -/
def locate (tree : FileTree) (path : String) : Except FileError Place :=
  if path.toList.contains '\x00' then .error .nulInPath
  else if path = "" then .error .notFound
  else if 4096 ≤ path.utf8ByteSize then .error .nameTooLong
  else tree.walk (if Path.isAbsolute path then ["/"] else []) (Path.parts path)

/-! ### Looking -/

/-- What stands where a path leads. -/
def stat (tree : FileTree) (path : String) : Except FileError Node := do
  let place ← tree.locate path
  match tree.node? place with
  | some node => return node
  | none => throw .notFound

/-- Whether a path leads to a directory. -/
def isDirectory (tree : FileTree) (path : String) : Bool :=
  match tree.stat path with
  | .ok .directory => true
  | _ => false

/-- Whether a path leads to a regular file. -/
def isFile (tree : FileTree) (path : String) : Bool :=
  match tree.stat path with
  | .ok (.file _) => true
  | _ => false

/-- The content of a file. -/
def read (tree : FileTree) (path : String) : Except FileError Bytes := do
  match ← tree.stat path with
  | .file content => return content
  | .directory => throw .isADirectory

/-- The content of a file as text. -/
def readText (tree : FileTree) (path : String) : Except FileError String := do
  match Text.decode? (← tree.read path) with
  | some text => return text
  | none => throw .notText

/-- The time of a file. -/
def modified (tree : FileTree) (path : String) : Nat :=
  match tree.locate path with
  | .ok place => (tree.times.lookup place).getD tree.clock
  | .error _ => tree.clock

/-! ### Changing -/

/-- Put a node at a place, instead of what is there. -/
def set (tree : FileTree) (place : Place) (node : Node) : FileTree :=
  { tree with nodes := (tree.nodes.filter (·.1 ≠ place)) ++ [(place, node)] }

/-- Remove what is at a place. -/
def erase (tree : FileTree) (place : Place) : FileTree :=
  { tree with nodes := tree.nodes.filter (·.1 ≠ place) }

/-- Make a directory whose parent exists. -/
def makeDirectory (tree : FileTree) (path : String) : Except FileError FileTree := do
  let place ← tree.locate path
  match tree.node? place with
  | some _ => throw .alreadyExists
  | none => return tree.set place .directory

/-- Make a directory and those above it that do not exist. `names` are the names
of its path, last first. The tree returned holds what was made before an error. -/
def makeDirectories (tree : FileTree) (absolute : Bool) :
    (names : List String) → FileTree × Option FileError
  | [] => (tree, none)
  | name :: parents =>
    let path := (if absolute then "/" else "") ++ "/".intercalate (name :: parents).reverse
    let orExisting (tree : FileTree) (error : FileError) : FileTree × Option FileError :=
      (tree, if tree.isDirectory path then none else some error)
    match tree.makeDirectory path with
    | .ok made => (made, none)
    | .error .notFound =>
      match tree.makeDirectories absolute parents with
      | (made, some error) => (made, some error)
      | (made, none) =>
        match made.makeDirectory path with
        | .ok made => (made, none)
        | .error error => orExisting made error
    | .error error => orExisting tree error

/-- Make the directory that holds a path, and those above it that do not exist. -/
def makeParents (tree : FileTree) (path : String) : FileTree × Option FileError :=
  tree.makeDirectories (Path.isAbsolute path) (Path.components path).dropLast.reverse

/-- Make an empty file where nothing is, and open it. -/
def makeFile (tree : FileTree) (path : String) : Except FileError (Place × FileTree) := do
  if path.toList.getLast? = some '/' then throw .isADirectory
  let place ← tree.locate path
  match tree.node? place with
  | some _ => throw .alreadyExists
  | none => return (place, tree.set place (.file []))

/-- Empty a file, and open it. It is made if nothing is there. -/
def emptyFile (tree : FileTree) (path : String) : Except FileError (Place × FileTree) := do
  let place ← tree.locate path
  match tree.node? place with
  | some .directory => throw .isADirectory
  | _ => return (place, tree.set place (.file []))

/-- Write to a file that is open and empty. If there is not room for everything,
the write breaks off when there is none left. -/
def fill (tree : FileTree) (place : Place) (content : Bytes) : Except FailedChange FileTree :=
  let written := content.take (tree.room.head?.getD content.length)
  let left := { tree with room := tree.room.tail }.set place (.file written)
  if written.length < content.length then .error ⟨.noSpace, left⟩ else .ok left

/-- Write a file where nothing is. -/
def create (tree : FileTree) (path : String) (content : Bytes) : Except FailedChange FileTree :=
  match tree.makeFile path with
  | .error error => .error ⟨error, tree⟩
  | .ok (place, made) => made.fill place content

/-- Replace the content of a file. -/
def write (tree : FileTree) (path : String) (content : Bytes) : Except FailedChange FileTree :=
  match tree.emptyFile path with
  | .error error => .error ⟨error, tree⟩
  | .ok (place, emptied) => emptied.fill place content

/-- Remove a file. -/
def remove (tree : FileTree) (path : String) : Except FileError FileTree := do
  let place ← tree.locate path
  match tree.node? place with
  | some (.file _) => return tree.erase place
  | some .directory => throw .isADirectory
  | none => throw .notFound

end FileTree

end Waymark
