import TableCodegen.Catalog.Snapshot
import TableCodegen.Catalog.Table
import TableCodegen.File.Tree

/-!
# Runs

A run reads a catalog, writes files and prints lines. What it has done so far stays, also when it fails:
the calls to the catalog, the files and the printed lines, each in order.

Main definitions:

* `CatalogReader`, `ReaderCall`: catalogs and the calls to them.
* `RunState`, `Run`: runs.
* `readTable`, `closing`: reading a table, and closing the catalog after a run.
* `makeDirectories`, `writeFile`: changes of files.
-/

namespace TableCodegen

/-! ## Catalogs -/

/-- A call to a catalog. -/
inductive ReaderCall where
  | comment (table : String)
  | indexes (table : String)
  | columns (table : String)
  | close
  deriving Repr, DecidableEq

/-- A catalog. What it answers to a call may depend on the calls before it. -/
structure CatalogReader where
  comment : List ReaderCall → String → Except Failure String
  indexes : List ReaderCall → String → Except Failure (List IndexRow)
  columns : List ReaderCall → String → Except Failure (List ColumnRow)
  close : List ReaderCall → Except Failure Unit

/-- The catalog of a snapshot; a table that is not in it has no comment and no rows. -/
def Snapshot.reader (snapshot : Snapshot) : CatalogReader where
  comment := fun _ table => .ok ((snapshot.find? table).getD {}).comment
  indexes := fun _ table => .ok ((snapshot.find? table).getD {}).indexes
  columns := fun _ table => .ok ((snapshot.find? table).getD {}).columns
  close := fun _ => .ok ()

/-! ## Runs -/

/-- A file that a run has written. -/
structure WrittenFile where
  path : String
  text : String
  deriving Repr, DecidableEq

/-- What a run has done so far. -/
structure RunState where
  calls : List ReaderCall := []
  files : FileTree := {}
  written : List WrittenFile := []
  printed : List String := []

/-- A run: a value or a failure, and what has been done. -/
abbrev Run (α : Type) := ExceptT Failure (StateM RunState) α

namespace Run

/-- A result as a run that does nothing. -/
def ofExcept {α : Type} (result : Except Failure α) : Run α := liftM (m := Except Failure) result

/-- Calls the catalog. -/
def call {α : Type} (request : ReaderCall) (answer : List ReaderCall → Except Failure α) : Run α := do
  let before := (← get).calls
  modify fun state => { state with calls := state.calls ++ [request] }
  ofExcept (answer before)

/-- The run with a failure seen inside one more step. -/
def inStep {α : Type} (step : String) (run : Run α) : Run α :=
  tryCatch run fun failure => throw (failure.within step)

/-- Prints a line. -/
def print (line : String) : Run Unit :=
  modify fun state => { state with printed := state.printed ++ [line] }

end Run

/-- Closes a catalog. -/
def CatalogReader.closeRun (reader : CatalogReader) : Run Unit :=
  Run.inStep "Failed to close catalog" (Run.call .close reader.close)

/-- A run, after which the catalog is closed whether the run failed or not. A failure of the run itself
    wins over one of closing. -/
def closing {α : Type} (reader : CatalogReader) (body : Run α) : Run α := fun state =>
  let (result, state) := body.run state
  let (closed, state) := reader.closeRun.run state
  match result, closed with
  | .ok value, .ok () => (.ok value, state)
  | .ok _, .error failure => (.error failure, state)
  | .error failure, _ => (.error failure, state)

/-- Reads a table: its comment, its indexes and its columns. -/
def readTable (reader : CatalogReader) (enableInitialism : Bool) (name : String) : Run Table := do
  let reading (what : String) : String :=
    "Failed to read " ++ what ++ " of table \x60" ++ name ++ "\x60"
  let comment ← Run.inStep (reading "comment")
    (Run.call (.comment name) fun before => reader.comment before name)
  let indexRows ← Run.inStep (reading "indexes")
    (Run.call (.indexes name) fun before => reader.indexes before name)
  let columnRows ← Run.inStep (reading "columns")
    (Run.call (.columns name) fun before => reader.columns before name)
  return Table.ofRows enableInitialism name comment indexRows columnRows

/-! ## Files -/

/-- The result of an operation on files as a result of a run. -/
def fileResult {α : Type} (result : Except FileFault α) : Except Failure α :=
  result.mapError fun fault => .ofCause (.file fault)

/-- Makes a directory and all that are missing on the way to it. -/
def makeDirectories (path : String) : Run Unit := do
  let files ← Run.ofExcept (fileResult ((← get).files.makeDirectories path))
  modify fun state => { state with files := files }

/-- Sets the text of a file. -/
def setFile (path text : String) : Run Unit := do
  let files ← Run.ofExcept (fileResult ((← get).files.write path text))
  modify fun state =>
    { state with files := files, written := state.written ++ [⟨path, text⟩] }

/-- The text of a file. -/
def readFile (path : String) : Run String := do
  Run.ofExcept (fileResult ((← get).files.read path))

/-- Writes a generated file and says so; the label says what it is. -/
def writeFile (label path text : String) : Run Unit := do
  Run.inStep ("Failed to write " ++ label ++ ": " ++ path) (setFile path text)
  Run.print ("✅ Generated " ++ label ++ " → " ++ Path.literal path)

end TableCodegen
