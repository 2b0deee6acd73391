import TableCodegen.CommandLine.Command
import TableCodegen.File.Stored
import TableCodegen.Layout.Delimiter
import TableCodegen.Project

/-!
# Running commands

What each command does, as a run over files. Tables are read from a snapshot; there is no way to a live
catalog.
-/

namespace TableCodegen.CommandLine

/-- The settings of a conversion: those of its file, or the defaults, with the arguments put over
    them. -/
def ConvertArguments.resolve (arguments : ConvertArguments) : Run GenerationConfig := do
  let base ← match arguments.config with
    | some path => loadConfig GenerationConfig path
    | none => pure {}
  Run.ofExcept ((arguments.merge base).mapError fun fault => .ofCause (.config fault))

/-- The catalog of a snapshot file. -/
def openCatalog (catalog : Option String) : Run CatalogReader := do
  match catalog with
  | some path => return (← loadSnapshot path).reader
  | none =>
    throw (.ofText
      "grom was built without the \x60mysql\x60 feature; pass --catalog <snapshot> instead")

/-- Ends a run if settings have a fault. -/
def require (check : Except ConfigFault Unit) : Run Unit :=
  Run.ofExcept (check.mapError fun fault => .ofCause (.config fault))

/-- Prints the model of a table. -/
def runConvert (formatter : SourceFormatter) (arguments : ConvertArguments) : Run Unit := do
  let config ← arguments.resolve
  require config.check
  let reader ← openCatalog arguments.catalog
  let model ← Run.inStep ("Failed to convert table \x60" ++ config.db.table ++ "\x60")
    (convertTable reader config formatter)
  Run.print model

/-- Generates a project. -/
def runProject (formatter : SourceFormatter) (name : String) (catalog : Option String) :
    Run Unit := do
  let config ← loadConfig ProjectConfig name
  require (if catalog.isSome then config.checkLayout else config.check)
  let reader ← openCatalog catalog
  let report ← generateProject ⟨reader, config, formatter, .delimiter⟩
  for table in report.skipped do
    Run.print ("⚠️  Skipped table without fields: " ++ table)
  Run.print ("write in: " ++ config.dir)

/-- Runs a command. -/
def Command.run (formatter : SourceFormatter) : Command → Run Unit
  | convert arguments => runConvert formatter arguments
  | generate name => do
    saveConfig name GenerationConfig.sample
    Run.print ("✅ Wrote sample config → " ++ Path.literal name)
  | apiConfig name => do
    saveConfig name ProjectConfig.sample
    Run.print ("✅ Wrote sample project config → " ++ Path.literal name)
  | apiGenerate name catalog => runProject formatter name catalog

end TableCodegen.CommandLine
