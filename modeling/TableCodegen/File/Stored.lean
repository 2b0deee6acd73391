import TableCodegen.Data.Format
import TableCodegen.Run

/-!
# Data files

Settings and snapshots in files. The format follows from the name of the file and is looked at before
the file is.
-/

namespace TableCodegen

/-- The format of a file, in a run. -/
def formatOf (path : String) : Run DataFormat :=
  Run.ofExcept ((DataFormat.ofPath path).mapError fun fault => .ofCause (.config fault))

/-- Reads a value from a file; `what` says what kind of file it is. -/
def loadFile (α : Type) [Stored α] (what path : String) : Run α := do
  let format ← formatOf path
  let text ← Run.inStep ("Failed to read " ++ what ++ ": " ++ path) (readFile path)
  Run.inStep ("Failed to parse " ++ what ++ ": " ++ path) (Run.ofExcept (format.decode text))

/-- Reads settings. -/
def loadConfig (α : Type) [Stored α] (path : String) : Run α :=
  loadFile α "config" path

/-- Reads a catalog snapshot. -/
def loadSnapshot (path : String) : Run Snapshot :=
  loadFile Snapshot "catalog snapshot" path

/-- Writes settings. -/
def saveConfig {α : Type} [Stored α] (path : String) (config : α) : Run Unit := do
  let format ← formatOf path
  Run.inStep ("Failed to write config: " ++ path) (setFile path (format.encode config))

end TableCodegen
