import TableCodegen.Config.Basic
import TableCodegen.Data.Decode
import TableCodegen.Data.Resolve

/-!
# Settings as document trees

Settings are written as one map. The database settings, and in a project the route settings, stand
beside the settings of the run itself and not in maps of their own. To find them the rest of the map,
whatever it holds, is resolved within the limits of its format.

Main definitions:

* `DbConfig.toTree`, `GenerationConfig.toTree`, `ApiConfig.toTree`, `ProjectConfig.toTree`: writing.
* `DbConfig.ofTree?`, `GenerationConfig.ofTree?`, `ApiConfig.ofTree?`, `ProjectConfig.ofTree?`: reading.
-/

namespace TableCodegen

/-! ## Writing -/

/-- A list of texts as a tree. -/
def Tree.ofTexts (texts : List String) : Tree :=
  .list (texts.map .text)

/-- The entries of database settings. -/
def DbConfig.toEntries (config : DbConfig) : List (String × Tree) := [
  ("host", .text config.host), ("port", .int config.port.toNat), ("user", .text config.user),
  ("password", .text config.password), ("database", .text config.database),
  ("table", .text config.table)]

/-- Database settings as a tree. -/
def DbConfig.toTree (config : DbConfig) : Tree :=
  .map config.toEntries

/-- Model settings as a tree. -/
def GenerationConfig.toTree (config : GenerationConfig) : Tree :=
  .map (config.db.toEntries ++ [
    ("package_name", .text config.packageName), ("struct_name", .text config.structName),
    ("enable_initialism", .bool config.enableInitialism),
    ("enable_field_comment", .bool config.enableFieldComment),
    ("enable_sql_null", .bool config.enableSqlNull),
    ("enable_guregu_null", .bool config.enableGureguNull),
    ("enable_json_tag", .bool config.enableJsonTag), ("enable_xml_tag", .bool config.enableXmlTag),
    ("enable_gorm_tag", .bool config.enableGormTag),
    ("enable_gorm_v2_tag", .bool config.enableGormV2Tag),
    ("enable_xorm_tag", .bool config.enableXormTag),
    ("enable_beego_tag", .bool config.enableBeegoTag),
    ("enable_gorose_tag", .bool config.enableGoroseTag),
    ("disable_unsigned", .bool config.disableUnsigned),
    ("enable_bool_detection", .bool config.enableBoolDetection),
    ("ignore_fields", Tree.ofTexts config.ignoreFields)])

/-- The entries of route settings. -/
def ApiConfig.toEntries (config : ApiConfig) : List (String × Tree) := [
  ("struct_name", .text config.structName), ("route_name", .text config.routeName),
  ("enable_initialism", .bool config.enableInitialism),
  ("ignore_fields", Tree.ofTexts config.ignoreFields), ("title", .text config.title),
  ("desc", .text config.desc), ("author", .text config.author), ("email", .text config.email),
  ("version", .text config.version), ("service_name", .text config.serviceName),
  ("route_prefix", .text config.routePrefix), ("group_prefix", .text config.groupPrefix),
  ("route_style", .text config.routeStyle.toText), ("enable_plural", .bool config.enablePlural),
  ("enable_model", .bool config.enableModel), ("disable_unsigned", .bool config.disableUnsigned)]

/-- Route settings as a tree. -/
def ApiConfig.toTree (config : ApiConfig) : Tree :=
  .map config.toEntries

/-- Project settings as a tree. -/
def ProjectConfig.toTree (config : ProjectConfig) : Tree :=
  .map (config.db.toEntries ++ config.api.toEntries ++ [
    ("dir", .text config.dir), ("table_prefix", .text config.tablePrefix),
    ("tables", Tree.ofTexts config.tables),
    ("enable_trim_table_prefix", .bool config.enableTrimTablePrefix)])

/-! ## Reading -/

/-- Reads database settings from the entries of a record. -/
def DbConfig.ofEntries? (es : List (String × Tree)) : Option DbConfig := do
  return {
    host := ← Tree.field es ["host"] "" Tree.asText
    port := ← Tree.field es ["port"] 0 Tree.asUInt16
    user := ← Tree.field es ["user"] "" Tree.asText
    password := ← Tree.field es ["password"] "" Tree.asText
    database := ← Tree.field es ["database"] "" Tree.asText
    table := ← Tree.field es ["table"] "" Tree.asText }

/-- Reads database settings. -/
def DbConfig.ofTree? (tree : Tree) : Option DbConfig := do
  DbConfig.ofEntries? (← tree.recordEntries? ["host", "port", "user", "password", "database", "table"])

/-- The entries of a map that stand for none of the given names, resolved. -/
def Tree.otherEntries? (limits : Limits) (names : List String) (entries : List (String × Tree)) :
    Option (List (String × Tree)) :=
  Tree.resolveEntries? limits (entries.filter fun entry => !names.contains entry.1)

/-- The names of model settings beside those of the database. -/
def GenerationConfig.names : List String := [
  "package_name", "struct_name", "enable_initialism", "enable_field_comment", "enable_sql_null",
  "enable_sql_null_wrapper", "enable_guregu_null", "enable_guregu_null_wrapper", "enable_json_tag",
  "enable_xml_tag", "enable_gorm_tag", "enable_gorm_v2_tag", "enable_xorm_tag", "enable_beego_tag",
  "enable_gorose_tag", "disable_unsigned", "enable_bool_detection", "ignore_fields"]

/-- Reads model settings. -/
def GenerationConfig.ofTree? (limits : Limits) (tree : Tree) : Option GenerationConfig := do
  let es ← tree.entries?
  return {
    db := ← DbConfig.ofEntries? (← Tree.otherEntries? limits GenerationConfig.names es)
    packageName := ← Tree.field es ["package_name"] "model" Tree.asText
    structName := ← Tree.field es ["struct_name"] "" Tree.asText
    enableInitialism := ← Tree.field es ["enable_initialism"] false Tree.asBool
    enableFieldComment := ← Tree.field es ["enable_field_comment"] false Tree.asBool
    enableSqlNull := ← Tree.field es ["enable_sql_null", "enable_sql_null_wrapper"] false Tree.asBool
    enableGureguNull :=
      ← Tree.field es ["enable_guregu_null", "enable_guregu_null_wrapper"] false Tree.asBool
    enableJsonTag := ← Tree.field es ["enable_json_tag"] false Tree.asBool
    enableXmlTag := ← Tree.field es ["enable_xml_tag"] false Tree.asBool
    enableGormTag := ← Tree.field es ["enable_gorm_tag"] false Tree.asBool
    enableGormV2Tag := ← Tree.field es ["enable_gorm_v2_tag"] false Tree.asBool
    enableXormTag := ← Tree.field es ["enable_xorm_tag"] false Tree.asBool
    enableBeegoTag := ← Tree.field es ["enable_beego_tag"] false Tree.asBool
    enableGoroseTag := ← Tree.field es ["enable_gorose_tag"] false Tree.asBool
    disableUnsigned := ← Tree.field es ["disable_unsigned"] true Tree.asBool
    enableBoolDetection := ← Tree.field es ["enable_bool_detection"] true Tree.asBool
    ignoreFields := ← Tree.field es ["ignore_fields"] [] (Tree.asList Tree.asText) }

/-- The names of route settings. -/
def ApiConfig.fields : List String := [
  "struct_name", "route_name", "enable_initialism", "ignore_fields", "title", "desc", "author",
  "email", "version", "service_name", "route_prefix", "group_prefix", "route_style",
  "enable_plural", "enable_model", "disable_unsigned"]

/-- Reads route settings from the entries of a record. -/
def ApiConfig.ofEntries? (es : List (String × Tree)) : Option ApiConfig := do
  return {
    structName := ← Tree.field es ["struct_name"] "" Tree.asText
    routeName := ← Tree.field es ["route_name"] "" Tree.asText
    enableInitialism := ← Tree.field es ["enable_initialism"] false Tree.asBool
    ignoreFields := ← Tree.field es ["ignore_fields"] [] (Tree.asList Tree.asText)
    title := ← Tree.field es ["title"] "" Tree.asText
    desc := ← Tree.field es ["desc"] "" Tree.asText
    author := ← Tree.field es ["author"] "" Tree.asText
    email := ← Tree.field es ["email"] "" Tree.asText
    version := ← Tree.field es ["version"] "" Tree.asText
    serviceName := ← Tree.field es ["service_name"] "" Tree.asText
    routePrefix := ← Tree.field es ["route_prefix"] "" Tree.asText
    groupPrefix := ← Tree.field es ["group_prefix"] "" Tree.asText
    routeStyle := ← Tree.field es ["route_style"] .kebab fun tree =>
      tree.asText.map Naming.RouteStyle.ofText
    enablePlural := ← Tree.field es ["enable_plural"] false Tree.asBool
    enableModel := ← Tree.field es ["enable_model"] false Tree.asBool
    disableUnsigned := ← Tree.field es ["disable_unsigned"] true Tree.asBool }

/-- Reads route settings. -/
def ApiConfig.ofTree? (tree : Tree) : Option ApiConfig := do
  ApiConfig.ofEntries? (← tree.recordEntries? ApiConfig.fields)

/-- The names of project settings beside those of the database and of the routes. -/
def ProjectConfig.names : List String :=
  ["dir", "table_prefix", "tables", "enable_trim_table_prefix"]

/-- Reads project settings. -/
def ProjectConfig.ofTree? (limits : Limits) (tree : Tree) : Option ProjectConfig := do
  let es ← tree.entries?
  let others ← Tree.otherEntries? limits ProjectConfig.names es
  return {
    db := ← DbConfig.ofEntries? others
    api := ← ApiConfig.ofEntries? others
    dir := ← Tree.field es ["dir"] "" Tree.asText
    tablePrefix := ← Tree.field es ["table_prefix"] "" Tree.asText
    tables := ← Tree.field es ["tables"] [] (Tree.asList Tree.asText)
    enableTrimTablePrefix := ← Tree.field es ["enable_trim_table_prefix"] false Tree.asBool }

end TableCodegen
