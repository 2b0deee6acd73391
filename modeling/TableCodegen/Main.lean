import TableCodegen.CommandLine.Execution
import TableCodegen.Text.Utf8

/-!
# The command line

Reads the files that a command names, runs the command, prints its lines and writes its files. Documents
are written as they are generated, without a source formatter.
-/

open TableCodegen
open TableCodegen.CommandLine

/-- The path of an entry of a file tree. -/
def pathOfSegments : List String → String
  | "/" :: rest => "/" ++ "/".intercalate rest
  | segments => "/".intercalate segments

/-- The files that a command reads. -/
def inputPaths : Command → List String
  | .convert arguments => arguments.config.toList ++ arguments.catalog.toList
  | .apiGenerate name catalog => name :: catalog.toList
  | _ => []

/-- A file tree with one more file of the disk, if it is there, and with the directories around it. What
    is there and is no file stands for a directory. -/
def loadInto (tree : FileTree) (path : String) : IO FileTree := do
  match ← (IO.FS.readBinFile path).toBaseIO with
  | .ok bytes =>
    let segments := Path.segments path
    let tree := (tree.makeReversed false segments.dropLast.reverse).toOption.getD tree
    return tree.set segments (.file (Text.Utf8.decode bytes.toList).toOption)
  | .error (.noFileOrDirectory ..) => return tree
  | .error _ => return (tree.makeDirectories path).toOption.getD tree

/-- The files on the disk that a command needs to know of. -/
def loadTree (command : Command) : IO FileTree :=
  (inputPaths command).foldlM loadInto {}

/-- Writes the directories and files that a run has made. -/
def storeChanges (start : FileTree) (state : RunState) : IO Unit := do
  for (segments, entry) in state.files.entries do
    if entry = .directory && (start.entry? segments).isNone then
      IO.FS.createDirAll (pathOfSegments segments)
  for file in state.written do
    IO.FS.writeFile file.path file.text

/-- What is said about a command line that names no action. -/
def usageText : UsageFault → String
  | .displayHelp => "Usage: grom <convert|generate|api> [OPTIONS]"
  | .displayVersion => "grom"
  | .missingCommand => "Usage: grom <convert|generate|api> [OPTIONS]"
  | .unknownCommand => "error: unrecognized subcommand"
  | .unknownArgument => "error: unexpected argument"
  | .missingValue => "error: a value is required"
  | .needlessValue => "error: unexpected value"
  | .malformedValue => "error: invalid value"
  | .repeatedFlag => "error: an argument cannot be used multiple times"

/-- The exit code of a command line that names no action. -/
def usageCode : UsageFault → UInt32
  | .displayHelp => 0
  | .displayVersion => 0
  | _ => 2

/-- Runs a command on the disk. -/
def execute (command : Command) : IO UInt32 := do
  let start ← loadTree command
  let (result, state) := (command.run .verbatim).run { files := start }
  for line in state.printed do
    IO.println line
  storeChanges start state
  match result with
  | .ok () => return 0
  | .error failure =>
    IO.eprintln ("Error: " ++ failure.message)
    return 1

/-- Runs the command line. -/
def main (arguments : List String) : IO UInt32 := do
  let password ← IO.getEnv passwordVariable
  let environment := fun name => if name = passwordVariable then password else none
  match Command.read environment arguments with
  | .ok command => execute command
  | .error fault =>
    if usageCode fault = 0 then IO.println (usageText fault) else IO.eprintln (usageText fault)
    return usageCode fault
