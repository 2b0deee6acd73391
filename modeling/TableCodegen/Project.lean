import TableCodegen.Config.Check
import TableCodegen.Document.Gist
import TableCodegen.Document.Model
import TableCodegen.Document.Render
import TableCodegen.Run

/-!
# Conversions and projects

A conversion reads one table and gives its model document. A project reads many tables and writes a
route document for each, storage models where settings ask for them, one document that imports all route
documents, and the gists of all tables. Tables without fields are passed over.

Main definitions:

* `convertTable`: the model document of the table that settings name.
* `TableNames`, `serviceFile`: the names of generated files.
* `generateTable`, `generateProject`: what a project writes for a table, and for all.
-/

namespace TableCodegen

/-! ## Conversions -/

/-- The model document of the table that settings name. -/
def convertTable (reader : CatalogReader) (config : GenerationConfig) (formatter : SourceFormatter) :
    Run String := do
  Run.ofExcept (config.check.mapError fun fault => .ofCause (.config fault))
  let name := Text.trimmed config.db.table
  closing reader do
    let table ← readTable reader config.enableInitialism name
    let fields := buildFields config table.columns
    if fields.isEmpty then
      throw (.ofText ("table \x60" ++ name ++ "\x60 has no columns to convert"))
    let document := ModelDocument.ofTable table (structName config table.name) fields config
    Run.ofExcept (document.render formatter)

/-! ## Names -/

/-- The ending of route files. -/
def routeFileSuffix : String := ".api"

/-- The name of the service document of a project without a table prefix. -/
def defaultServiceName : String := "server"

/-- The directory of storage models below that of the project. -/
def modelDirectory : String := "model"

/-- The names that a project gives to a table. -/
structure TableNames where
  structName : String
  routeFile : String
  deriving Repr, DecidableEq

/-- A table's name without the table prefix. -/
def withoutTablePrefix (config : ProjectConfig) (table : String) : String :=
  match Text.dropHead? config.tablePrefix.toList table.toList with
  | some rest => String.ofList rest
  | none => table

/-- The names of a table. Its file never has the table prefix, its structure only if settings keep it; a
    structure name in the settings counts when there is just one table. -/
def TableNames.ofTable (config : ProjectConfig) (table : String) : TableNames :=
  let short := Naming.exportedName config.api.enableInitialism (withoutTablePrefix config table)
  { structName :=
      if config.tables.length = 1 && !config.api.structName.isEmpty then config.api.structName
      else if config.enableTrimTablePrefix then short
      else Naming.exportedName config.api.enableInitialism table
    routeFile := lowerCase short ++ routeFileSuffix }

/-- The name of the service document: the table prefix without the underscores around it. -/
def serviceFile (tablePrefix : String) : String :=
  let name := lowerCase (String.ofList (Text.dropAroundWhile (· == '_') tablePrefix.toList))
  (if name.isEmpty then defaultServiceName else name) ++ routeFileSuffix

/-! ## Projects -/

/-- What a project run produced. -/
structure ProjectReport where
  /-- The paths of all files, in the order in which they were written. -/
  written : List String
  /-- The tables that were passed over. -/
  skipped : List String
  deriving Repr, DecidableEq

/-- What a project has of a table that was not passed over. -/
structure GeneratedTable where
  routeFile : String
  gists : Gists
  deriving Repr, DecidableEq

/-- The parameters of a project run. -/
structure ProjectRun where
  reader : CatalogReader
  config : ProjectConfig
  formatter : SourceFormatter
  validator : RouteValidator

namespace ProjectRun

/-- A path below the directory of the project. -/
def pathTo (run : ProjectRun) (name : String) : String :=
  Path.join run.config.dir name

/-- The model settings for a table. -/
def tableConfig (run : ProjectRun) (name : String) : GenerationConfig :=
  { run.config.api.generationConfig run.config.db with
    structName := (TableNames.ofTable run.config name).structName }

/-- Makes the directories of the project. -/
def prepare (run : ProjectRun) : Run Unit := do
  let dir := run.config.dir
  Run.inStep ("Failed to create output dir: " ++ dir) (makeDirectories dir)
  if run.config.api.enableModel then
    let models := run.pathTo modelDirectory
    Run.inStep ("Failed to create model dir: " ++ models) (makeDirectories models)

/-- Writes the route document of an entity. -/
def writeRoutes (run : ProjectRun) (routeFile : String) (entity : Entity) : Run Unit := do
  let text ← Run.ofExcept (renderRoutes entity run.config.api run.validator run.formatter)
  writeFile "route file" (run.pathTo routeFile) text

/-- Writes the storage model of an entity. -/
def writeModel (run : ProjectRun) (table : Table) (entity : Entity) (storage : List Field)
    (config : GenerationConfig) : Run Unit := do
  let document :=
    ModelDocument.ofTable table (Naming.replaceInitialisms entity.structName) storage config
  let text ← Run.ofExcept (document.render run.formatter)
  writeFile "model" (Path.join (run.pathTo modelDirectory) (table.name ++ ".go")) text

/-- Writes the files of a table; nothing comes of a table without fields. -/
def generateTable (run : ProjectRun) (name : String) : Run (Option GeneratedTable) := do
  let config := run.tableConfig name
  let table ← readTable run.reader run.config.api.enableInitialism name
  let entity := buildEntity table config run.config.api
  if entity.fields.isEmpty then return none
  let routeFile := (TableNames.ofTable run.config name).routeFile
  run.writeRoutes routeFile entity
  let storage := storageFields (buildFields config table.columns)
  if run.config.api.enableModel then
    run.writeModel table entity storage config
  return some ⟨routeFile, ← Run.ofExcept (renderGists entity storage run.formatter)⟩

/-- Writes the document that imports the route documents of the generated tables, and their gists. -/
def writeTotals (run : ProjectRun) (tables : List GeneratedTable) : Run Unit := do
  if !tables.isEmpty then
    let imports := tables.map (·.routeFile)
    let text ← Run.ofExcept (renderService run.config.api imports run.validator run.formatter)
    writeFile "aggregate route file" (run.pathTo (serviceFile run.config.tablePrefix)) text
  let gists : GistSet := ⟨tables.map (·.gists)⟩
  for file in gists.files do
    writeFile "gist" (run.pathTo file.1) file.2

/-- Writes all files of a project; the result is the list of the tables that were passed over. -/
def generateAll (run : ProjectRun) : Run (List String) := do
  let results ← run.config.tables.mapM fun name => do
    return (name, ← run.generateTable name)
  run.writeTotals (results.filterMap (·.2))
  return (results.filter (·.2.isNone)).map (·.1)

end ProjectRun

/-- Writes the files of a project. -/
def generateProject (run : ProjectRun) : Run ProjectReport := do
  Run.ofExcept (run.config.checkLayout.mapError fun fault => .ofCause (.config fault))
  run.prepare
  let skipped ← closing run.reader run.generateAll
  return ⟨(← get).written.map (·.path), skipped⟩

end TableCodegen
