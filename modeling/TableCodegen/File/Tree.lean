import TableCodegen.Failure
import TableCodegen.File.Path

/-!
# File trees

The directories and files that a run works on. A file is found through the directories on its path,
which have to be there and have to be directories.

Main definitions:

* `FileTree`, `FileTree.entry?`: trees and their entries.
* `FileTree.read`, `FileTree.write`: the text of a file.
* `FileTree.makeDirectories`: a directory and all directories on the way to it.
-/

namespace TableCodegen

/-- An entry of a file tree. -/
inductive FileEntry where
  | directory
  /-- A file; nothing when its bytes are no text. -/
  | file (text? : Option String)
  deriving Repr, DecidableEq

/-- A file tree: its entries by the segments of their paths. -/
structure FileTree where
  entries : List (List String × FileEntry) := []
  deriving Repr, DecidableEq

namespace FileTree

/-- Segments that lead to the root, to the working directory, or to one above it. These are always
    there. -/
def isGiven (segments : List String) : Bool :=
  segments == ["/"] || segments.all (· == "..")

/-- The directory above one. -/
def above (directory : List String) : List String :=
  if directory == ["/"] then directory
  else if directory.all (· == "..") then ".." :: directory
  else directory.dropLast

/-- The entry at some segments. -/
def entry? (tree : FileTree) (segments : List String) : Option FileEntry :=
  if isGiven segments then some .directory else tree.entries.lookup segments

/-- The tree with an entry set. -/
def set (tree : FileTree) (segments : List String) (entry : FileEntry) : FileTree :=
  ⟨(segments, entry) :: tree.entries.filter (·.1 != segments)⟩

/-- The directory that segments lead to from another one. -/
def enter (tree : FileTree) (directory : List String) : List String → Except FileFault (List String)
  | [] => .ok directory
  | segment :: rest =>
    if segment = ".." then enter tree (above directory) rest
    else match tree.entry? (directory ++ [segment]) with
      | some .directory => enter tree (directory ++ [segment]) rest
      | some (.file _) => .error .notADirectory
      | none => .error .notFound

/-- Where segments lead: the directory that holds the last one, and its name. Nothing is there for
    segments that end at a directory by their spelling. -/
def locate (tree : FileTree) (segments : List String) :
    Except FileFault (List String × Option String) := do
  let directory ← tree.enter [] segments.dropLast
  match segments.getLast? with
  | none => return (directory, none)
  | some name => return (directory, if name = ".." then none else some name)

/-- The text of the file at a path. -/
def read (tree : FileTree) (path : String) : Except FileFault String := do
  if path.isEmpty then throw .notFound
  match ← tree.locate (Path.segments path) with
  | (_, none) => throw .isADirectory
  | (directory, some name) =>
    match tree.entry? (directory ++ [name]) with
    | none => throw .notFound
    | some .directory => throw .isADirectory
    | some (.file text?) =>
      if Path.endsOpen path then throw .notADirectory
      match text? with
      | some text => return text
      | none => throw .invalidData

/-- The tree after the text of the file at a path is set. -/
def write (tree : FileTree) (path text : String) : Except FileFault FileTree := do
  if path.isEmpty then throw .notFound
  match ← tree.locate (Path.segments path) with
  | (_, none) => throw .isADirectory
  | (directory, some name) =>
    match tree.entry? (directory ++ [name]) with
    | some .directory => throw .isADirectory
    | some (.file _) => if Path.endsOpen path then throw .notADirectory
    | none => if Path.endsOpen path then throw .isADirectory
    return tree.set (directory ++ [name]) (.file (some text))

/-- The tree with one more directory; the directory that holds it has to be there. -/
def makeDirectory (tree : FileTree) (segments : List String) : Except FileFault FileTree := do
  match ← tree.locate segments with
  | (_, none) => throw .alreadyExists
  | (directory, some name) =>
    match tree.entry? (directory ++ [name]) with
    | some _ => throw .alreadyExists
    | none => return tree.set (directory ++ [name]) .directory

/-- Segments lead to a directory. -/
def isDirectory (tree : FileTree) (segments : List String) : Bool :=
  (tree.enter [] segments).toOption.isSome

/-- The tree, if segments lead to a directory of it; otherwise the fault. -/
def ifDirectory (tree : FileTree) (segments : List String) (fault : FileFault) :
    Except FileFault FileTree :=
  if tree.isDirectory segments then .ok tree else .error fault

/-- The tree with a directory and all that are missing on the way to it. The segments come last one
    first; a directory whose name ends with a dot of its own cannot be made. -/
def makeReversed (tree : FileTree) (dotted : Bool) : List String → Except FileFault FileTree
  | [] => .ok tree
  | last :: before =>
    let segments := (last :: before).reverse
    let make (t : FileTree) : Except FileFault FileTree :=
      if dotted then (t.enter [] segments).bind fun _ => .error .alreadyExists
      else t.makeDirectory segments
    match make tree with
    | .ok made => .ok made
    | .error .notFound => do
      let tree ← makeReversed tree false before
      match make tree with
      | .ok made => return made
      | .error fault => tree.ifDirectory segments fault
    | .error fault => tree.ifDirectory segments fault

/-- The tree with the directory at a path and all that are missing on the way to it. -/
def makeDirectories (tree : FileTree) (path : String) : Except FileFault FileTree :=
  tree.makeReversed (Path.endsWithDot path) (Path.segments path).reverse

end FileTree

end TableCodegen
