import TableCodegen.Field.View
import TableCodegen.Naming.Plural
import TableCodegen.Text.Unicode.Case

/-!
# Entities

A table prepared for route documents: its fields in the route view, its key, and all the names that the
documents use for it.

Main definitions:

* `structName`: the structure name of a table.
* `IdInfo`, `Entity`: the key of a table and the table itself.
* `buildEntity`: the entity of a table.
-/

namespace TableCodegen

/-- The structure name of a table: the one that settings give, or the exported name of the table. -/
def structName (config : GenerationConfig) (table : String) : String :=
  if config.structName.isEmpty then Naming.exportedName config.enableInitialism table
  else config.structName

/-- The key of an entity, as paths and batches use it. -/
structure IdInfo where
  name : String
  namePlural : String
  type : MemberType
  rawName : String
  rawNamePlural : String
  comment : String
  label : String
  deriving DecidableEq

/-- A table prepared for route documents. -/
structure Entity where
  table : String
  tableComment : String
  /-- The exported structure name. -/
  structName : String
  /-- The name in route documents: the structure name, unless settings name the route. -/
  modelName : String
  routeName : String
  /-- The route name of lists. -/
  listRouteName : String
  /-- The group of the handlers. -/
  groupName : String
  /-- The variable that holds a model. -/
  objectName : String
  id : Option IdInfo
  fields : List Field
  deriving DecidableEq

/-- A text in small letters. -/
def lowerCase (text : String) : String :=
  String.ofList (Text.Unicode.lowerText text.toList)

/-- The end of the comment that a key gets when it has none. -/
def defaultIdComment : String := "ID"

/-- The key of a table as paths and batches use it; a key without a comment takes the table's. -/
def IdInfo.ofField (tableComment : String) (key : Field) : IdInfo :=
  let comment := if key.comment.isEmpty then tableComment ++ defaultIdComment else key.comment
  { name := key.name
    namePlural := Naming.pluralName key.name
    type := key.type
    rawName := key.rawName
    rawNamePlural := Naming.pluralName key.rawName
    comment := comment
    label := labelOf comment }

/-- The route view of a table's fields. -/
def apiFields (config : GenerationConfig) (columns : List Column) : List Field :=
  (buildFields config columns).map (Field.toApi config)

/-- The entity of a table. A route name in the settings also names the model. -/
def buildEntity (table : Table) (config : GenerationConfig) (api : ApiConfig) : Entity :=
  let struct := structName config table.name
  let routeName :=
    if api.routeName.isEmpty then Naming.routeName api.routeStyle struct else api.routeName
  let modelName := if api.routeName.isEmpty then struct else Naming.camelName api.routeName
  let fields := apiFields config table.columns
  { table := table.name
    tableComment := table.comment
    structName := struct
    modelName := modelName
    routeName := routeName
    listRouteName := if api.enablePlural then Naming.pluralName routeName else routeName
    groupName := lowerCase modelName
    objectName := Naming.lowerCamelName modelName
    id := (fields.find? (·.primaryKey)).map (IdInfo.ofField table.comment)
    fields := fields }

/-- The fields that appear in documents of a mode, in column order. -/
def Entity.fieldsIn (mode : Mode) (entity : Entity) : List Field :=
  entity.fields.filter (·.appearsIn mode)

/-- The name of the key, or nothing. -/
def Entity.idName (entity : Entity) : String :=
  (entity.id.map (·.name)).getD ""

end TableCodegen
