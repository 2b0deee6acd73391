import TableCodegen.CommandLine.Given
import TableCodegen.Config.Check

/-!
# Commands with their arguments

Main definitions:

* `ConvertArguments`, `Command`: commands and what they are given.
* `Command.read`: the command of a command line.
* `ConvertArguments.merge`: settings with the arguments of a conversion put over them.
-/

namespace TableCodegen.CommandLine

/-- The arguments of a conversion; an absent one leaves the settings as they are. -/
structure ConvertArguments where
  /-- The file with the settings. -/
  config : Option String := none
  host : Option String := none
  port : Option UInt16 := none
  user : Option String := none
  password : Option String := none
  database : Option String := none
  table : Option String := none
  packageName : Option String := none
  structName : Option String := none
  /-- Switches to turn on, by name. -/
  enable : List String := []
  /-- The file with a catalog snapshot. -/
  catalog : Option String := none
  deriving DecidableEq, Inhabited

/-- A command with its arguments. -/
inductive Command where
  | convert (arguments : ConvertArguments)
  | generate (name : String)
  | apiConfig (name : String)
  | apiGenerate (name : String) (catalog : Option String)
  deriving DecidableEq

/-! ## Reading -/

/-- The file of sample settings for conversions. -/
def defaultConvertConfig : String := "grom.json"

/-- The file of settings for projects. -/
def defaultProjectConfig : String := "config.yaml"

/-- The variable of the environment that holds the password. -/
def passwordVariable : String := "GROM_DB_PASSWORD"

/-- The arguments of a conversion. A password in the environment counts where no flag gives one. -/
def ConvertArguments.ofGiven (environment : String → Option String) (given : Given) :
    ConvertArguments where
  config := given.value? .name
  host := given.value? .host
  port := (given.value? .port).bind port?
  user := given.value? .user
  password := given.value? .password <|> environment passwordVariable
  database := given.value? .database
  table := given.value? .table
  packageName := given.value? .package
  structName := given.value? .struct
  enable := given.allValues .enable
  catalog := given.value? .catalog

/-- A command with the flags that it was given. -/
def Command.ofGiven (environment : String → Option String) (given : Given) : CommandKind → Command
  | .convert => convert (.ofGiven environment given)
  | .generate => generate ((given.value? .name).getD defaultConvertConfig)
  | .apiConfig => apiConfig ((given.value? .name).getD defaultProjectConfig)
  | .apiGenerate => apiGenerate ((given.value? .name).getD defaultProjectConfig) (given.value? .catalog)

/-- Reads a command line. -/
def Command.read (environment : String → Option String) (arguments : List String) :
    Except UsageFault Command := do
  let (kind, given) ← readArguments (.group .root) {} arguments
  return .ofGiven environment given kind

/-! ## Settings of a conversion -/

/-- Database settings with arguments put over them. -/
def ConvertArguments.mergeDb (arguments : ConvertArguments) (db : DbConfig) : DbConfig where
  host := arguments.host.getD db.host
  port := arguments.port.getD db.port
  user := arguments.user.getD db.user
  password := arguments.password.getD db.password
  database := arguments.database.getD db.database
  table := arguments.table.getD db.table

/-- Settings with arguments put over them. Blank names of switches do not count. -/
def ConvertArguments.merge (arguments : ConvertArguments) (config : GenerationConfig) :
    Except ConfigFault GenerationConfig :=
  let merged := { config with
    db := arguments.mergeDb config.db
    packageName := arguments.packageName.getD config.packageName
    structName := arguments.structName.getD config.structName }
  (arguments.enable.filter (!Text.isBlankText ·)).foldlM GenerationConfig.enable merged

end TableCodegen.CommandLine
