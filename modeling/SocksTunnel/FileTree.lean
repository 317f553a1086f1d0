/-!
Trees of files under one root, and the places that paths lead to.

A place is a list of names, the innermost first, so the root is empty. In a path the name `.` and
empty names count for nothing, and `..` leads from a directory to the one above it; a path that
leads above the root leads nowhere.
-/

namespace SocksTunnel

/-- Names from the innermost one to the one below the root. -/
abbrev Place := List String

/-- The names of a path that lead somewhere. -/
def pathNames (path : String) : List String :=
  (path.splitOn "/").filter fun name => name ≠ "" && name ≠ "."

/-- Whether a path starts at the root of the machine and not at the root of a tree. -/
def isAbsolutePath (path : String) : Bool := path.toList.head? = some '/'

/-- The place that names lead to from a place. Each directory on the way has to pass a check. -/
def follow? (exists? : Place → Bool) : Place → List String → Option Place
  | here, [] => some here
  | here, name :: rest =>
      if name = ".." then
        match here with
        | [] => none
        | _ :: above => follow? exists? above rest
      else if exists? (name :: here) then follow? exists? (name :: here) rest
      else none

/-- All beginnings of a list but the whole list, the longest first. -/
def beginnings (names : List String) : List (List String) :=
  ((List.range names.length).map names.take).reverse

/-- A tree: its directories, and its files with their contents. Of two files at one place the
first one counts. -/
structure FileTree where
  directories : List Place
  files : List (Place × String)

namespace FileTree

/-- The tree that comes about when files are written one after the other, each with the
directories on its way. A later file takes the place of an earlier one. -/
def ofFiles (files : List (String × String)) : FileTree :=
  let relative := files.filter fun (path, _) => !isAbsolutePath path
  let written := relative.filterMap fun (path, content) =>
    (follow? (fun _ => true) [] (pathNames path)).map fun place => (place, content)
  { directories := relative.flatMap fun (path, _) =>
      (beginnings (pathNames path)).filterMap (follow? (fun _ => true) [])
    files := written.reverse }

/-- The directory that names lead to from the root. -/
def directory? (tree : FileTree) (names : List String) : Option Place :=
  follow? tree.directories.contains [] names

/-- The content of the file of a name that is the nearest above a path: in the directory that the
path is in, or in one that its beginning names. -/
def nearest? (tree : FileTree) (name path : String) : Option String :=
  if isAbsolutePath path then none
  else (beginnings (pathNames path)).findSome? fun names =>
    (tree.directory? names).bind fun place => tree.files.lookup (name :: place)

end FileTree

end SocksTunnel
