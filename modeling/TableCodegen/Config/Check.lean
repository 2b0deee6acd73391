import TableCodegen.Config.Basic
import TableCodegen.Failure
import TableCodegen.Text.Blank
import TableCodegen.Text.Unicode.Case

/-!
# Checks of settings

What settings must have before a run starts, and the switches that can be turned on by name.

Main definitions:

* `DbConfig.check`, `GenerationConfig.check`, `ProjectConfig.check`: the first fault of settings.
* `Service`, `GenerationConfig.enable`: switches by name.
-/

namespace TableCodegen

open TableCodegen.Text

/-! ## First faults -/

/-- A connection needs a host, a port, a user and a database. -/
def DbConfig.check (config : DbConfig) : Except ConfigFault Unit :=
  if config.host.isEmpty || config.port == 0 || config.user.isEmpty || config.database.isEmpty then
    .error .invalidDatabase
  else .ok ()

/-- A conversion needs a table. -/
def GenerationConfig.check (config : GenerationConfig) : Except ConfigFault Unit :=
  if isBlankText config.db.table then .error .emptyTable else .ok ()

/-- The part of a project that does not need a database: a service, a directory and tables. -/
def ProjectConfig.checkLayout (config : ProjectConfig) : Except ConfigFault Unit :=
  if isBlankText config.api.serviceName then .error .emptyServiceName
  else if config.dir.isEmpty then .error .emptyDirectory
  else if config.tables.isEmpty then .error .noTables
  else .ok ()

/-- A project that reads a database needs a connection first. -/
def ProjectConfig.check (config : ProjectConfig) : Except ConfigFault Unit := do
  config.db.check
  config.checkLayout

/-! ## Switches by name -/

/-- A switch of a model conversion that can be turned on by name. -/
inductive Service where
  | initialism
  | fieldComment
  | sqlNull
  | gureguNull
  | jsonTag
  | xmlTag
  | gormTag
  | xormTag
  | beegoTag
  | goroseTag
  | gormV2Tag
  | disableUnsigned
  deriving Repr, DecidableEq

namespace Service

/-- The name of a switch. -/
def name : Service → String
  | initialism => "INITIALISM"
  | fieldComment => "FIELD_COMMENT"
  | sqlNull => "SQL_NULL"
  | gureguNull => "GUREGU_NULL"
  | jsonTag => "JSON_TAG"
  | xmlTag => "XML_TAG"
  | gormTag => "GORM_TAG"
  | xormTag => "XORM_TAG"
  | beegoTag => "BEEGO_TAG"
  | goroseTag => "GOROSE_TAG"
  | gormV2Tag => "GORM_V2_TAG"
  | disableUnsigned => "DISABLE_UNSIGNED"

/-- All switches. -/
def all : List Service :=
  [initialism, fieldComment, sqlNull, gureguNull, jsonTag, xmlTag, gormTag, xormTag, beegoTag,
    goroseTag, gormV2Tag, disableUnsigned]

/-- The form in which names are compared: without blanks around, in capitals. -/
def normalName (text : String) : String :=
  String.ofList (Unicode.upperText (trim text.toList))

/-- The switch with a given name; blanks around the name and its case do not count. -/
def ofText (text : String) : Except ConfigFault Service :=
  match all.find? (·.name == normalName text) with
  | some service => .ok service
  | none => .error (.invalidService (normalName text))

end Service

/-- The settings with one switch turned on. -/
def GenerationConfig.turnOn (config : GenerationConfig) : Service → GenerationConfig
  | .initialism => { config with enableInitialism := true }
  | .fieldComment => { config with enableFieldComment := true }
  | .sqlNull => { config with enableSqlNull := true }
  | .gureguNull => { config with enableGureguNull := true }
  | .jsonTag => { config with enableJsonTag := true }
  | .xmlTag => { config with enableXmlTag := true }
  | .gormTag => { config with enableGormTag := true }
  | .xormTag => { config with enableXormTag := true }
  | .beegoTag => { config with enableBeegoTag := true }
  | .goroseTag => { config with enableGoroseTag := true }
  | .gormV2Tag => { config with enableGormV2Tag := true }
  | .disableUnsigned => { config with disableUnsigned := true }

/-- Turns the named switch on in place. -/
def GenerationConfig.switchOn (service : String) : EStateM ConfigFault GenerationConfig Unit := do
  match Service.ofText service with
  | .ok service => modify (·.turnOn service)
  | .error fault => throw fault

/-- The settings with the named switch turned on; a name that is none leaves no settings. -/
def GenerationConfig.enable (config : GenerationConfig) (service : String) :
    Except ConfigFault GenerationConfig :=
  match (switchOn service).run config with
  | .ok _ config => .ok config
  | .error fault _ => .error fault

end TableCodegen
