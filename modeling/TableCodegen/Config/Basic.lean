import TableCodegen.MemberType.Basic
import TableCodegen.Naming.Camel

/-!
# Settings

The settings of a model conversion, of route documents, and of a project run that writes many of them.
The defaults of the fields are the settings of an empty file.
-/

namespace TableCodegen

/-- Where the catalog is. -/
structure DbConfig where
  host : String := ""
  port : UInt16 := 0
  user : String := ""
  password : String := ""
  database : String := ""
  table : String := ""
  deriving DecidableEq, Inhabited

/-- The settings of a model conversion. -/
structure GenerationConfig where
  db : DbConfig := {}
  packageName : String := "model"
  /-- Empty: the name follows from the table. -/
  structName : String := ""
  enableInitialism : Bool := false
  enableFieldComment : Bool := false
  enableSqlNull : Bool := false
  enableGureguNull : Bool := false
  enableJsonTag : Bool := false
  enableXmlTag : Bool := false
  enableGormTag : Bool := false
  enableGormV2Tag : Bool := false
  enableXormTag : Bool := false
  enableBeegoTag : Bool := false
  enableGoroseTag : Bool := false
  /-- Unsigned columns become signed members. -/
  disableUnsigned : Bool := true
  enableBoolDetection : Bool := true
  /-- Columns that are left out, by raw name. -/
  ignoreFields : List String := []
  deriving DecidableEq, Inhabited

/-- The settings of route documents. -/
structure ApiConfig where
  /-- Empty: the name follows from the table. -/
  structName : String := ""
  /-- Empty: the route follows from the structure name. -/
  routeName : String := ""
  enableInitialism : Bool := false
  ignoreFields : List String := []
  title : String := ""
  desc : String := ""
  author : String := ""
  email : String := ""
  version : String := ""
  serviceName : String := ""
  routePrefix : String := ""
  groupPrefix : String := ""
  routeStyle : Naming.RouteStyle := .kebab
  enablePlural : Bool := false
  enableModel : Bool := false
  disableUnsigned : Bool := true
  deriving DecidableEq, Inhabited

/-- The settings of a project run. -/
structure ProjectConfig where
  db : DbConfig := {}
  api : ApiConfig := {}
  /-- The directory that receives the files. -/
  dir : String := ""
  tablePrefix : String := ""
  tables : List String := []
  enableTrimTablePrefix : Bool := false
  deriving DecidableEq, Inhabited

namespace GenerationConfig

/-- The representation of nullable columns; of two wrapper families the `null` package wins. -/
def nullability (config : GenerationConfig) : NullPolicy :=
  if config.enableGureguNull then .gureguNull
  else if config.enableSqlNull then .sqlNull
  else .plain

/-- The column is left out. -/
def isIgnored (config : GenerationConfig) (rawName : String) : Bool :=
  config.ignoreFields.contains rawName

/-- The model names its table: some dialect reads that name. -/
def enablesTableName (config : GenerationConfig) : Bool :=
  config.enableGormTag || config.enableGormV2Tag || config.enableXormTag || config.enableBeegoTag ||
    config.enableGoroseTag

/-- The settings written as an example to start from. -/
def sample : GenerationConfig where
  db :=
    { host := "localhost", port := 3306, user := "user", password := "password"
      database := "database", table := "table" }
  packageName := "package_name"
  structName := "struct_name"
  enableInitialism := true
  enableFieldComment := true
  enableJsonTag := true
  enableGormV2Tag := true

end GenerationConfig

/-- The model settings that the fields of route documents are built with. -/
def ApiConfig.generationConfig (api : ApiConfig) (db : DbConfig) : GenerationConfig where
  db := db
  structName := api.structName
  enableInitialism := api.enableInitialism
  enableFieldComment := true
  enableJsonTag := true
  enableGormV2Tag := true
  disableUnsigned := api.disableUnsigned
  ignoreFields := api.ignoreFields

/-- The project settings written as an example to start from. -/
def ProjectConfig.sample : ProjectConfig where
  db :=
    { host := "localhost", port := 3306, user := "user", password := "password"
      database := "database" }
  api :=
    { enableInitialism := true, ignoreFields := ["deleted_at"], title := "title", desc := "desc"
      author := "author", email := "email", version := "v1.0.0", serviceName := "service"
      routePrefix := "api", groupPrefix := "v1", routeStyle := .kebab, enablePlural := true
      enableModel := true }
  dir := "output"
  tables := ["user"]

end TableCodegen
