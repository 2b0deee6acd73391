import TableCodegen.Document.Line
import TableCodegen.Entity

/-!
# Reading requests

Two pieces of handler code read the members of a request: one collects the columns to update, the other
narrows a query. Members that are pointers are read only when they are given, times are numbers of
milliseconds, and JSON is encoded before it is stored and never looked for.

Main definitions:

* `Access`, `Access.ofField`: how a member of a request is read.
* `UpdateEntry`, `UpdateFragment`: the columns to update.
* `FilterEntry`, `FilterFunction`: the conditions of a query.
-/

namespace TableCodegen

/-! ## Access -/

/-- How a member of a request is read. -/
inductive Access where
  | pointer
  | pointerTime
  | value
  | time
  | json
  deriving Repr, DecidableEq

/-- How the member of a field is read in documents of a mode. -/
def Access.ofField (mode : Mode) (field : Field) : Access :=
  if field.isJson then json
  else match field.isTimeField, (field.typeIn mode).isPointer with
    | true, true => pointerTime
    | true, false => time
    | false, true => pointer
    | false, false => value

/-- A value that is read from a member of a request. -/
inductive RequestValue where
  | member
  | pointee
  | time
  | timeOfPointee
  deriving Repr, DecidableEq

/-- The expression for a value of the member with the given name. -/
def RequestValue.toText (name : String) : RequestValue → String
  | member => "req." ++ name
  | pointee => "*req." ++ name
  | time => "time.UnixMilli(req." ++ name ++ ")"
  | timeOfPointee => "time.UnixMilli(*req." ++ name ++ ")"

/-- The value that a member gives. -/
def Access.requestValue : Access → RequestValue
  | pointer => .pointee
  | pointerTime => .timeOfPointee
  | time => .time
  | value | json => .member

/-- A test that a member of a request is not a literal. -/
structure RequestGuard where
  name : String
  /-- The literal that the member must differ from. -/
  literal : String
  deriving Repr, DecidableEq

/-- The line that opens the statements behind a test. -/
def RequestGuard.line (guard : RequestGuard) : String :=
  "if " ++ RequestValue.member.toText guard.name ++ " != " ++ guard.literal ++ " \x7b"

/-- The literal of an absent value. -/
def nilLiteral : String := "nil"

/-- The heading of a piece of handler code. -/
def headingLine (title : String) : String :=
  "// ---------------------- " ++ title ++ " ---------------------- //"

/-- The heading names an entity by its structure and its comment. -/
def Entity.title (entity : Entity) : String :=
  singleLine (entity.structName ++ " " ++ entity.tableComment)

/-! ## Updates -/

/-- A column that an update request can set. -/
structure UpdateEntry where
  name : String
  rawName : String
  access : Access
  /-- The local variable that holds encoded JSON. -/
  variableName : String
  deriving Repr, DecidableEq

namespace UpdateEntry

/-- The entry of a field. -/
def ofField (field : Field) : UpdateEntry where
  name := field.name
  rawName := field.rawName
  access := .ofField .update field
  variableName := Naming.lowerCamelName field.name

/-- The test before the statements of an entry, if there is one. -/
def guard? (entry : UpdateEntry) : Option RequestGuard :=
  match entry.access with
  | .pointer | .pointerTime | .json => some ⟨entry.name, nilLiteral⟩
  | .value | .time => none

/-- The line that sets the column to an expression. -/
def assignment (entry : UpdateEntry) (expression : String) : String :=
  "updateMap[" ++ inQuotes entry.rawName ++ "] = " ++ expression

/-- The statements that set the column. -/
def statements (entry : UpdateEntry) : List String :=
  match entry.access with
  | .json => [
    entry.variableName ++ ", err := json.Marshal(" ++ RequestValue.member.toText entry.name ++ ")",
    "if err != nil \x7b", indented 1 "return nil, err", "\x7d",
    entry.assignment ("datatypes.JSON(" ++ entry.variableName ++ ")")]
  | access => [entry.assignment (access.requestValue.toText entry.name)]

/-- The lines of an entry. -/
def lines (entry : UpdateEntry) : List String :=
  match entry.guard? with
  | none => entry.statements
  | some guard => [guard.line] ++ entry.statements.map (indented 1) ++ ["\x7d"]

end UpdateEntry

/-- The code that collects the columns to update. -/
structure UpdateFragment where
  title : String
  entries : List UpdateEntry
  deriving Repr, DecidableEq

namespace UpdateFragment

/-- The code for an entity: the key is not updated. -/
def ofEntity (entity : Entity) : UpdateFragment where
  title := entity.title
  entries := ((entity.fieldsIn .update).filter fun field => !field.primaryKey).map UpdateEntry.ofField

/-- The text of the code. -/
def toText (fragment : UpdateFragment) : String :=
  textOfLines ([headingLine fragment.title, "// 构建更新map",
    "updateMap := make(map[string]interface\x7b\x7d)"] ++ fragment.entries.flatMap UpdateEntry.lines)

end UpdateFragment

/-! ## Filters -/

/-- A column that a filter request can look for. -/
structure FilterEntry where
  name : String
  rawName : String
  access : Access
  /-- The literal for a member that holds nothing. -/
  zero : String
  deriving Repr, DecidableEq

namespace FilterEntry

/-- The entry of a field. -/
def ofField (field : Field) : FilterEntry where
  name := field.name
  rawName := field.rawName
  access := .ofField .filter field
  zero := (field.typeIn .filter).emptyLiteral

/-- The test that the request looks for the column; JSON columns cannot be looked for. -/
def guard? (entry : FilterEntry) : Option RequestGuard :=
  match entry.access with
  | .json => none
  | .pointer | .pointerTime => some ⟨entry.name, nilLiteral⟩
  | .time => some ⟨entry.name, "0"⟩
  | .value => some ⟨entry.name, entry.zero⟩

/-- The statement that narrows the query. -/
def statement (entry : FilterEntry) : String :=
  "db = db.Where(" ++ inQuotes (entry.rawName ++ " = ?") ++ ", " ++
    entry.access.requestValue.toText entry.name ++ ")"

/-- The lines of an entry. -/
def lines (entry : FilterEntry) : List String :=
  entry.guard?.toList.flatMap fun guard =>
    [indented 1 guard.line, indented 2 entry.statement, indented 1 "\x7d"]

end FilterEntry

/-- The function that narrows a query. -/
structure FilterFunction where
  title : String
  modelName : String
  /-- The label of the table. -/
  label : String
  entries : List FilterEntry
  deriving Repr, DecidableEq

namespace FilterFunction

/-- The function for an entity. -/
def ofEntity (entity : Entity) : FilterFunction where
  title := entity.title
  modelName := entity.modelName
  label := labelOf (singleLine entity.tableComment)
  entries := (entity.fieldsIn .filter).map FilterEntry.ofField

/-- The text of the function. -/
def toText (function : FilterFunction) : String :=
  textOfLines (
    [headingLine function.title,
      "// Filter" ++ function.modelName ++ " 构建" ++ function.label ++ "筛选条件",
      "func Filter" ++ function.modelName ++ "(db *gorm.DB, req *types.Filter" ++
        function.modelName ++ "Req) *gorm.DB \x7b"] ++
      function.entries.flatMap FilterEntry.lines ++ ["", indented 1 "return db", "\x7d"])

end FilterFunction

end TableCodegen
