import TableCodegen.Catalog.Column
import TableCodegen.Config.Basic

/-!
# Tags of columns

A tag tells a library how a member is stored. Each dialect has a key and writes what it knows about a
column as a list of clauses in a fixed order, joined by the separator of the dialect.

Main definitions:

* `TagDialect`, `enabledDialects`: the dialects and those that settings turn on.
* `GormClause`, `gormClauses`: the clauses of the two `gorm` dialects.
* `tagOf`, `Tag.toText`: the tag of a column in one dialect.
* `combinedTag`: the tags of all enabled dialects as one member tag.
-/

namespace TableCodegen

/-! ## Dialects -/

/-- A tag convention. -/
inductive TagDialect where
  | json
  | xml
  | gorm
  | xorm
  | beego
  | gorose
  | gormV2
  deriving Repr, DecidableEq

namespace TagDialect

/-- The dialects in the order in which their tags are written. -/
def all : List TagDialect :=
  [json, xml, gorm, xorm, beego, gorose, gormV2]

/-- The name of a dialect. -/
def name : TagDialect → String
  | json => "json"
  | xml => "xml"
  | gorm => "gorm"
  | xorm => "xorm"
  | beego => "beego"
  | gorose => "gorose"
  | gormV2 => "gorm_v2"

/-- The key of a dialect's tags. The two `gorm` dialects share one. -/
def key : TagDialect → String
  | json => "json"
  | xml => "xml"
  | gorm | gormV2 => "gorm"
  | xorm => "xorm"
  | beego => "orm"
  | gorose => "gorose"

/-- The dialect is turned on; of two that share a key the older one wins. -/
def isEnabled (config : GenerationConfig) : TagDialect → Bool
  | json => config.enableJsonTag
  | xml => config.enableXmlTag
  | gorm => config.enableGormTag
  | xorm => config.enableXormTag
  | beego => config.enableBeegoTag
  | gorose => config.enableGoroseTag
  | gormV2 => config.enableGormV2Tag && !config.enableGormTag

end TagDialect

/-- The dialects that settings turn on, in the order of their tags. -/
def enabledDialects (config : GenerationConfig) : List TagDialect :=
  TagDialect.all.filter (·.isEnabled config)

/-! ## Clauses -/

/-- A value if a condition holds, as a list. -/
def clauseIf {α : Type} (condition : Bool) (clause : α) : List α :=
  if condition then [clause] else []

/-- The column forbids absent values and is not the key, which forbids them anyway. -/
def Column.isNotNull (column : Column) : Bool :=
  !(column.nullable || column.primaryKey)

/-- A clause of the `gorm` dialects. -/
inductive GormClause where
  | primaryKey
  | autoIncrement
  | column (name : String)
  | type (columnType : String)
  /-- The type of a column that counts by itself, in the dialect that says so in the type. -/
  | countingType (columnType : String)
  | notNull
  | index (names : List String)
  | uniqueIndex (names : List String)
  | default (text : String)
  | comment (text : String)
  deriving Repr, DecidableEq

/-- The two versions of the `gorm` dialect. -/
inductive GormVersion where
  | one
  | two
  deriving Repr, DecidableEq

/-- The spelling of a clause. -/
def GormClause.toText : GormVersion → GormClause → String
  | .one, primaryKey => "primary_key"
  | .two, primaryKey => "primaryKey"
  | _, autoIncrement => "autoIncrement"
  | _, column name => "column:" ++ name
  | _, type columnType => "type:" ++ columnType
  | _, countingType columnType => "type:" ++ columnType ++ " auto_increment"
  | _, notNull => "not null"
  | _, index names => "index:" ++ ",".intercalate names
  | .one, uniqueIndex names => "unique_index:" ++ ",".intercalate names
  | .two, uniqueIndex names => "uniqueIndex:" ++ ",".intercalate names
  | .one, default text => "default:'" ++ text ++ "'"
  | .two, default text => "default:" ++ text
  | .one, comment text => "comment:'" ++ text ++ "'"
  | .two, comment text => "comment:" ++ text

/-- The clauses after the type, which the versions share. -/
def gormConstraints (column : Column) : List GormClause :=
  clauseIf column.isNotNull .notNull ++
    clauseIf (!column.indexes.isEmpty) (.index (column.indexes.map (·.name))) ++
    clauseIf (!column.uniqueIndexes.isEmpty) (.uniqueIndex (column.uniqueIndexes.map (·.name))) ++
    clauseIf (!column.default.isEmpty) (.default column.default) ++
    clauseIf (!column.comment.isEmpty) (.comment column.comment)

/-- The clauses of a column. Version one gives every column its type and marks a counting column there;
    version two marks it apart and gives the key no type. -/
def gormClauses (version : GormVersion) (column : Column) : List GormClause :=
  match version with
  | .one =>
    clauseIf column.primaryKey .primaryKey ++ [.column column.name] ++
      [if column.autoIncrement then .countingType column.columnType else .type column.columnType] ++
      gormConstraints column
  | .two =>
    clauseIf column.primaryKey .primaryKey ++ clauseIf column.autoIncrement .autoIncrement ++
      [.column column.name] ++ clauseIf (!column.primaryKey) (.type column.columnType) ++
      gormConstraints column

/-- The clauses of a column in the `xorm` dialect. -/
def xormClauses (column : Column) : List String :=
  clauseIf column.primaryKey "pk" ++ clauseIf column.autoIncrement "autoincr" ++
    [column.columnType ++ " '" ++ column.name ++ "'"] ++
    clauseIf column.isNotNull "notnull" ++
    column.indexes.map (fun index => "index(" ++ index.name ++ ")") ++
    column.uniqueIndexes.map (fun index => "unique(" ++ index.name ++ ")") ++
    clauseIf (!column.default.isEmpty) ("default('" ++ column.default ++ "')") ++
    clauseIf (!column.comment.isEmpty) ("comment('" ++ column.comment ++ "')")

/-- The type of a column in the `beego` dialect, as clauses: floating and decimal columns give their
    digits, integers a size one above their precision, bounded texts and bytes their length, and most
    times count as a date with a time. -/
def beegoTypeClauses (column : Column) : List String :=
  let dataType := Text.asciiLower column.dataType
  let unsigned := if column.unsigned then " unsigned" else ""
  if ["float", "double", "real", "decimal", "numeric"].contains dataType then
    ["type(" ++ dataType ++ unsigned ++ ")", "digits(" ++ toString column.precision ++ ")",
      "decimals(" ++ toString column.scale ++ ")"]
  else if ["tinyint", "smallint", "mediumint", "int", "integer", "bigint"].contains dataType then
    ["type(" ++ dataType ++ unsigned ++ ")", "size(" ++ toString (column.precision + 1) ++ ")"]
  else if ["year", "time", "timestamp"].contains dataType then ["type(datetime)"]
  else if ["bit", "binary", "varbinary", "char", "varchar"].contains dataType then
    ["type(" ++ dataType ++ ")", "size(" ++ toString column.length ++ ")"]
  else if ["tinytext", "text", "mediumtext", "longtext"].contains dataType then ["type(text)"]
  else ["type(" ++ dataType ++ ")"]

/-- The type clauses of the `beego` dialect, each after its separator. -/
def beegoType (column : Column) : String :=
  String.join ((beegoTypeClauses column).map fun clause => ";" ++ clause)

/-- The clauses of a column in the `beego` dialect. -/
def beegoClauses (column : Column) : List String :=
  clauseIf column.primaryKey "pk" ++ clauseIf column.autoIncrement "auto" ++
    ["column(" ++ column.name ++ ")"] ++ beegoTypeClauses column ++
    clauseIf column.nullable "null" ++
    clauseIf (!column.default.isEmpty) ("default(" ++ column.default ++ ")") ++
    clauseIf (!column.comment.isEmpty) ("description(" ++ column.comment ++ ")")

/-! ## Tags -/

/-- A key and its value. -/
structure Tag where
  key : String
  value : String
  deriving Repr, DecidableEq

/-- A tag as it is written. -/
def Tag.toText (tag : Tag) : String :=
  tag.key ++ ":\"" ++ tag.value ++ "\""

/-- The value of a column's tag. -/
def TagDialect.value (column : Column) : TagDialect → String
  | json | xml | gorose => column.name
  | gorm => ";".intercalate ((gormClauses .one column).map (GormClause.toText .one))
  | gormV2 => ";".intercalate ((gormClauses .two column).map (GormClause.toText .two))
  | xorm => " ".intercalate (xormClauses column)
  | beego => ";".intercalate (beegoClauses column)

/-- The tag of a column. -/
def tagOf (dialect : TagDialect) (column : Column) : Tag :=
  ⟨dialect.key, dialect.value column⟩

/-- The character around a member tag. -/
def backtick : Char := '\x60'

/-- The tags of a column in the enabled dialects, separated by blanks between backticks; empty when no
    dialect is enabled. -/
def combinedTag (config : GenerationConfig) (column : Column) : String :=
  match (enabledDialects config).map fun dialect => (tagOf dialect column).toText with
  | [] => ""
  | fragments => backtick.toString ++ " ".intercalate fragments ++ backtick.toString

end TableCodegen
