/-!
# Waymark.Path

Paths of files as text: names separated by slashes.

Design points:

* a path is relative unless it begins with a slash;
* `Path.below` maps a request path onto a path below a directory and refuses one
  that would climb out of it; it is the only place where request paths become
  file paths.
-/

namespace Waymark.Path

/-- The pieces of a text between the characters `sep`; there is always one. -/
def pieces (sep : Char) : List Char → List (List Char)
  | [] => [[]]
  | c :: cs =>
    if c = sep then [] :: pieces sep cs
    else
      match pieces sep cs with
      | [] => [[c]]
      | piece :: more => (c :: piece) :: more

/-- The pieces of a path between its slashes. -/
def parts (path : String) : List String :=
  (pieces '/' path.toList).map String.ofList

/-- Whether a path begins at the root of the file system. -/
def isAbsolute (path : String) : Bool := path.toList.head? = some '/'

/-- Extend a path by a part. An absolute part replaces the path. -/
def push (path part : String) : String :=
  if isAbsolute part then part
  else if path = "" ∨ path.toList.getLast? = some '/' then path ++ part
  else path ++ "/" ++ part

/-- The names of a path that mean something: without empty pieces, and without
`.` unless a relative path begins with it. -/
def components (path : String) : List String :=
  match parts path with
  | [] => []
  | first :: rest =>
    (if first = "" then [] else [first]) ++ rest.filter fun part => part ≠ "" && part ≠ "."

/-- The last name of a path, unless it is `.` or `..`. -/
def fileName? (path : String) : Option String :=
  (components path).getLast?.filter fun name => name ≠ "." && name ≠ ".."

/-- What stands after the last dot of the file name. A name without a dot, or
with none but its first character, has no extension. -/
def extension? (path : String) : Option String :=
  match fileName? path with
  | none => none
  | some name =>
    let reversed := name.toList.reverse
    let after := (reversed.takeWhile (· ≠ '.')).reverse
    let stem := (reversed.dropWhile (· ≠ '.')).drop 1
    if stem = [] then none else some (String.ofList after)

/-- The part of a request path after a location's path; the whole request path
when it does not start with that. -/
def relative (location request : String) : String :=
  if location.toList.isPrefixOf request.toList then
    String.ofList (request.toList.drop location.toList.length)
  else request

/-- The names that a request path adds to the directory of its location. -/
def segments (relative : String) : List String :=
  (parts relative).filter fun part => part ≠ "" && part ≠ "."

/-- The path below `root` that a request path at a location stands for, or none
when it contains `..`. -/
def below (location root request : String) : Option String :=
  let names := segments (relative location request)
  if names.contains ".." then none else some (names.foldl push root)

end Waymark.Path
