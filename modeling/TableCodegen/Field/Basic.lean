import TableCodegen.Catalog.Table
import TableCodegen.Config.Basic
import TableCodegen.MemberType.OfColumn
import TableCodegen.Tag.Dialect

/-!
# Fields

A field is a column as the documents see it: its exported name, its member type, and what its comment
and its default say. Documents show a field in one of six modes, and the mode decides whether the field
appears and whether it appears as a pointer, so that an absent value differs from a zero value.

Main definitions:

* `Mode`: the documents a field can appear in.
* `Field`, `Field.ofColumn`: fields of columns.
* `Field.appearsIn`, `Field.isPromoted`, `Field.typeIn`: a field in a mode.
* `buildFields`: the fields of the columns that settings keep.
-/

namespace TableCodegen

/-! ## Modes -/

/-- A document that shows fields. -/
inductive Mode where
  /-- The model itself, and responses. -/
  | model
  | create
  /-- The update of one row, which names the key in its path. -/
  | update
  /-- The update of many rows, which leaves the key out. -/
  | batchUpdate
  /-- The parameters of a list query. -/
  | get
  /-- The body of a filter. -/
  | filter
  deriving Repr, DecidableEq

namespace Mode

/-- All modes. -/
def all : List Mode := [model, create, update, batchUpdate, get, filter]

/-- The caller supplies values to be stored. -/
def isWrite : Mode → Bool
  | create | update | batchUpdate => true
  | _ => false

/-- The caller supplies values to be looked for. -/
def isQuery : Mode → Bool
  | get | filter => true
  | _ => false

end Mode

/-! ## Fields -/

/-- A column as the documents see it. -/
structure Field where
  /-- The exported name. -/
  name : String
  /-- The type in documents of this view. -/
  type : MemberType
  /-- The type before the view changed it. -/
  sourceType : MemberType
  rawName : String
  columnType : String
  /-- The data type in small letters. -/
  dataType : String
  default : String
  /-- The allowed values with a blank between neighbours; empty when there are none. -/
  enums : String
  label : String
  comment : String
  /-- The member tag with its backticks; empty when no dialect is enabled. -/
  tag : String
  primaryKey : Bool
  nullable : Bool
  deriving DecidableEq

/-- The end of the names of columns that keep a time for themselves. -/
def autoTimeSuffix : String := "_at"

/-- The column that marks rows as deleted. -/
def deletedAtColumn : String := "deleted_at"

/-- The data type of JSON columns. -/
def jsonDataType : String := "json"

/-- The text ends with another one. -/
def endsWith (text ending : String) : Bool :=
  (Text.dropHead? ending.toList.reverse text.toList.reverse).isSome

namespace Field

/-- The model view of a column. -/
def ofColumn (config : GenerationConfig) (column : Column) : Field :=
  let remark := Remark.ofComment column.comment
  let traits : TypeTraits :=
    { nullable := column.nullable
      unsigned := column.unsigned && !config.disableUnsigned
      isBool := config.enableBoolDetection && column.isBoolColumn }
  let type := mapType column.dataType traits config.nullability
  { name := Naming.exportedName config.enableInitialism column.name
    type := type
    sourceType := type
    rawName := column.name
    columnType := column.columnType
    dataType := Text.asciiLower column.dataType
    default := column.default
    enums := remark.enums
    label := remark.label
    comment := column.comment
    tag := combinedTag config column
    primaryKey := column.primaryKey
    nullable := column.nullable }

/-- The column has a default. -/
def hasDefault (field : Field) : Bool :=
  !field.default.isEmpty

/-- The default says no more than the zero value of the type does. -/
def isDefaultEmpty (field : Field) : Bool :=
  field.type.isDefaultEmpty field.default

/-- The column holds JSON. -/
def isJson (field : Field) : Bool :=
  field.dataType == jsonDataType

/-- The column holds a time, whatever the view makes of it. -/
def isTimeField (field : Field) : Bool :=
  field.sourceType.isTime

/-- The column holds a time that the database keeps. -/
def isAutoTime (field : Field) : Bool :=
  endsWith field.rawName autoTimeSuffix && field.default == currentTimestamp && field.isTimeField

/-- An integer of plain or small width with a set of allowed values. -/
def hasIntEnum (field : Field) : Bool :=
  !field.enums.isEmpty &&
    match field.type.scalar? with
    | some .int | some .int32 | some .uint | some .uint32 => true
    | _ => false

/-- A type whose zero value is easily meant. -/
def isNarrow (field : Field) : Bool :=
  match field.type.scalar? with
  | some .int32 | some .bool => true
  | _ => false

/-- A caller that stores a row has to give the field. -/
def isRequired (field : Field) : Bool :=
  !field.nullable && !field.hasDefault

/-- The field appears in documents of a mode: the key only where it is needed, and a time that the
    database keeps in no document that stores values. -/
def appearsIn (mode : Mode) (field : Field) : Bool :=
  match mode with
  | .model => true
  | .create | .batchUpdate => !field.primaryKey && !field.isAutoTime
  | .update => !field.isAutoTime
  | .get | .filter => !field.primaryKey

/-- The field appears as a pointer in documents of a mode. The model, the key and types with an absent
    value of their own never do; elsewhere nullable, narrow and enumerated fields do, and where values
    are stored also those with a default that says something. -/
def isPromoted (mode : Mode) (field : Field) : Bool :=
  if mode = .model || field.primaryKey || field.type.isReference then false
  else
    let shared := field.nullable || field.isNarrow || field.hasIntEnum
    if mode.isWrite then shared || !field.isDefaultEmpty else shared

/-- The type of the field in documents of a mode. -/
def typeIn (mode : Mode) (field : Field) : MemberType :=
  if field.isPromoted mode then field.type.toPointer else field.type

end Field

/-- The model view of the columns that are not left out. -/
def buildFields (config : GenerationConfig) (columns : List Column) : List Field :=
  (columns.filter fun column => !config.isIgnored column.name).map (Field.ofColumn config)

end TableCodegen
