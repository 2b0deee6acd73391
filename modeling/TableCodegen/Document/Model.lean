import TableCodegen.Document.Line
import TableCodegen.Entity
import TableCodegen.Formatter

/-!
# Model documents

The model document of a table declares a structure with one member per field, the packages that the
member types come from, and, where a dialect reads them, methods with the name of the table and its
index groupings.

Main definitions:

* `MemberType.package?`, `packagesOf`: the packages of member types.
* `ModelDocument`, `ModelDocument.ofTable`: the document of a table.
* `ModelDocument.toText`, `ModelDocument.render`: its raw and its formatted text.
-/

namespace TableCodegen

/-! ## Packages -/

/-- The package that a plain type comes from. -/
def Scalar.package? : Scalar → Option String
  | .time => some "time"
  | .deletedAt => some "gorm.io/gorm"
  | .storedJson => some "gorm.io/datatypes"
  | _ => none

/-- The package that a member type comes from. -/
def MemberType.package? : MemberType → Option String
  | .scalar s | .pointer s => s.package?
  | .sqlNull _ => NullPolicy.sqlNull.package?
  | .gureguNull _ => NullPolicy.gureguNull.package?
  | .unknown => none

/-- The packages of the fields' types, ascending and each once. -/
def packagesOf (fields : List Field) : List String :=
  uniqueStrings ((fields.filterMap (·.type.package?)).mergeSort (· ≤ ·))

/-! ## Documents -/

/-- A member of a model. -/
structure ModelMember where
  name : String
  type : MemberType
  /-- The tag with its backticks; empty when there is none. -/
  tag : String
  comment : String
  deriving Repr, DecidableEq

/-- A method that gives index groupings: its name, what they are, and the groupings. -/
structure GroupingMethod where
  name : String
  doc : String
  groupings : List String
  deriving Repr, DecidableEq

/-- A model document. -/
structure ModelDocument where
  packageName : String
  imports : List String
  structName : String
  /-- The comment of the table on one line; empty when there is none. -/
  comment : String
  /-- The receiver of the methods. -/
  receiver : String
  members : List ModelMember
  /-- The table that a method names. -/
  tableName : Option String
  groupingMethods : List GroupingMethod
  deriving Repr, DecidableEq

namespace ModelDocument

/-- The receiver for a structure: its first letter in small form. -/
def receiverOf (structName : String) : String :=
  match structName.toList with
  | [] => ""
  | c :: _ => String.ofList (Text.Unicode.lower c)

/-- The member of a field. -/
def memberOf (config : GenerationConfig) (field : Field) : ModelMember where
  name := field.name
  type := field.type
  tag := field.tag
  comment := if config.enableFieldComment then singleLine field.comment else ""

/-- The methods that give a table's index groupings: only the `beego` dialect reads them, and a kind of
    index that the table does not have gets no method. -/
def groupingMethodsOf (config : GenerationConfig) (indexes : TableIndexes) : List GroupingMethod :=
  if config.enableBeegoTag then
    [⟨"TableIndex", "多字段索引", indexes.normal⟩, ⟨"TableUnique", "多字段唯一键", indexes.unique⟩].filter
      fun method => !method.groupings.isEmpty
  else []

/-- The model document of a table with the given view of its fields. -/
def ofTable (table : Table) (structName : String) (fields : List Field)
    (config : GenerationConfig) : ModelDocument where
  packageName := config.packageName
  imports := packagesOf fields
  structName := structName
  comment := singleLine table.comment
  receiver := receiverOf structName
  members := fields.map (memberOf config)
  tableName := if config.enablesTableName then some table.name else none
  groupingMethods := groupingMethodsOf config table.indexes

/-! ## Text -/

/-- The line of a member. -/
def memberLine (member : ModelMember) : String :=
  let declaration := member.name ++ " " ++ member.type.toText
  withComment (if member.tag.isEmpty then declaration else declaration ++ " " ++ member.tag)
    member.comment

/-- The lines of a method: its comment, its head and its body. -/
def methodLines (document : ModelDocument) (name doc result : String) (body : List String) :
    List String :=
  ["", "// " ++ name ++ " " ++ doc,
    "func (" ++ document.receiver ++ " *" ++ document.structName ++ ") " ++ name ++ "() " ++ result ++
      " \x7b"] ++ body ++ ["\x7d"]

/-- The lines of the method that names the table. -/
def tableNameLines (document : ModelDocument) (table : String) : List String :=
  document.methodLines "TableName" "表名" "string" [indented 1 ("return " ++ inQuotes table)]

/-- The lines of a method that gives index groupings. -/
def groupingLines (document : ModelDocument) (method : GroupingMethod) : List String :=
  document.methodLines method.name method.doc "[][]string"
    ([indented 1 "return [][]string\x7b"] ++
      method.groupings.map (fun grouping => indented 2 ("\x7b " ++ grouping ++ " \x7d,")) ++
      [indented 1 "\x7d"])

/-- The lines of a model document. -/
def lines (document : ModelDocument) : List String :=
  ["package " ++ document.packageName] ++
    (if document.imports.isEmpty then []
      else ["", "import ("] ++ document.imports.map (fun path => indented 1 (inQuotes path)) ++ [")"]) ++
    [""] ++
    clauseIf (!document.comment.isEmpty) ("// " ++ document.structName ++ " " ++ document.comment) ++
    ["type " ++ document.structName ++ " struct \x7b"] ++
    document.members.map (fun member => indented 1 (memberLine member)) ++ ["\x7d"] ++
    document.tableName.toList.flatMap document.tableNameLines ++
    document.groupingMethods.flatMap document.groupingLines

/-- The raw text of a model document. -/
def toText (document : ModelDocument) : String :=
  textOfLines document.lines

/-- The formatted text of a model document, without one line feed at its end. -/
def render (document : ModelDocument) (formatter : SourceFormatter) : Except Failure String := do
  let formatted ← inStep ("Failed to format model " ++ document.structName ++ "\n" ++ document.toText)
    (formatter document.toText)
  let cs := formatted.toList
  return String.ofList (if cs.getLast? = some '\n' then cs.dropLast else cs)

end ModelDocument

end TableCodegen
