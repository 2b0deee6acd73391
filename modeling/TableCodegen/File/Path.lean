import TableCodegen.Text.Literal
import TableCodegen.Text.Search

/-!
# Paths

A path names a file by the directories on the way to it. Empty parts and `.` do not count, and `..` goes
back by one directory.

Main definitions:

* `Path.segments`, `Path.fileName?`, `Path.extension?`: the parts of a path.
* `Path.join`: a path below another one.
* `Path.literal`: a path between quotes.
-/

namespace TableCodegen.Path

open TableCodegen.Text

/-- The parts of a path between its slashes. -/
def parts (path : String) : List String :=
  (splitBy (· == '/') path.toList).map String.ofList

/-- The parts that count. -/
def names (path : String) : List String :=
  (parts path).filter fun part => part != "" && part != "."

/-- The path starts at the root. -/
def isAbsolute (path : String) : Bool :=
  path.toList.head? == some '/'

/-- The steps from the working directory to the file; the root is a step of its own. -/
def segments (path : String) : List String :=
  if isAbsolute path then "/" :: names path else names path

/-- The path names a directory, by its spelling. -/
def endsOpen (path : String) : Bool :=
  match (parts path).getLast? with
  | some part => part == "" || part == "."
  | none => false

/-- The path ends with a dot of its own, which is there only if the directory before it is. -/
def endsWithDot (path : String) : Bool :=
  (parts path).getLast? == some "."

/-- A path below another one; an absolute path stands for itself. -/
def join (directory name : String) : String :=
  if isAbsolute name || directory.isEmpty then name
  else if directory.toList.getLast? == some '/' then directory ++ name
  else directory ++ "/" ++ name

/-- The last name of a path, unless it goes back. -/
def fileName? (path : String) : Option String :=
  (names path).getLast?.filter (· != "..")

/-- The part of a file name after its last point, if something stands before the point. -/
def extension? (path : String) : Option String :=
  (fileName? path).bind fun name =>
    let pieces := splitBy (· == '.') name.toList
    match pieces.reverse with
    | ending :: rest@(_ :: _) => if rest = [[]] then none else some (String.ofList ending)
    | _ => none

/-- A character of a path between quotes: single quotes are escaped, too. -/
def escapeChar (c : Char) : List Char :=
  if c = '\x27' then ['\\', c] else Text.escapeChar c

/-- A path between quotes. -/
def literal (path : String) : String :=
  "\"" ++ String.ofList (path.toList.flatMap escapeChar) ++ "\""

end TableCodegen.Path
