import TableCodegen.Document.Line
import TableCodegen.Entity
import TableCodegen.Field.View

/-!
# Conversion functions

A conversion function makes the route view of a row from its stored form. Members of equal types are
copied at once. All others start from a zero literal and are set afterwards, each behind a test that its
stored member holds something.

Main definitions:

* `Conversion`, `Conversion.between`: how a stored member becomes a member of the route view.
* `ConversionStep`, `ConvertMember`: the statements for one member.
* `ConversionFunction`: the function for an entity, and its text.
-/

namespace TableCodegen

/-! ## Conversions -/

/-- How a stored member becomes a member of the route view. -/
inductive Conversion where
  | copy
  /-- A time, as milliseconds. -/
  | time
  /-- The time of a deletion, as milliseconds. -/
  | deletion
  /-- The value behind a pointer. -/
  | pointee
  /-- Stored JSON, decoded. -/
  | decoded
  deriving Repr, DecidableEq

/-- The conversion from a stored field to a field of the route view. -/
def Conversion.between (api store : Field) : Conversion :=
  if api.isJson then decoded
  else if store.type.isOf .deletedAt then deletion
  else if store.type.isTime then time
  else if store.type.isPointer then pointee
  else copy

/-! ## Statements -/

/-- A value that is read from a stored member. -/
inductive StoredValue where
  | member
  | pointee
  | millis
  | deletionMillis
  deriving Repr, DecidableEq

/-- The expression for a value of the stored member with the given name. -/
def StoredValue.toText (source : String) : StoredValue → String
  | member => "src." ++ source
  | pointee => "*src." ++ source
  | millis => "src." ++ source ++ ".UnixMilli()"
  | deletionMillis => "src." ++ source ++ ".Time.UnixMilli()"

/-- A test that a stored member holds something. -/
inductive StoredGuard where
  | notNil
  | valid
  | nonEmpty
  deriving Repr, DecidableEq

/-- The expression for a test of the stored member with the given name. -/
def StoredGuard.toText (source : String) : StoredGuard → String
  | notNil => "src." ++ source ++ " != nil"
  | valid => "src." ++ source ++ ".Valid"
  | nonEmpty => "len(src." ++ source ++ ") > 0"

/-- What is done with a stored member that holds something. -/
inductive ConversionStep where
  | assign (guard : StoredGuard) (value : StoredValue)
  /-- Decodes stored JSON into the member. -/
  | decode (guard : StoredGuard)
  deriving Repr, DecidableEq

/-- The step of a conversion; a copy needs none. -/
def Conversion.step? : Conversion → Option ConversionStep
  | copy => none
  | time => some (.assign .notNil .millis)
  | deletion => some (.assign .valid .deletionMillis)
  | pointee => some (.assign .notNil .pointee)
  | decoded => some (.decode .nonEmpty)

/-- One member of a conversion. -/
structure ConvertMember where
  /-- The member of the route view. -/
  target : String
  /-- The stored member. -/
  source : String
  conversion : Conversion
  /-- The literal for a member that holds nothing. -/
  zero : String
  deriving Repr, DecidableEq

namespace ConvertMember

/-- The conversion of a pair of fields that stand for one column. -/
def ofFields (api store : Field) : ConvertMember where
  target := api.name
  source := store.name
  conversion := .between api store
  zero := api.type.emptyLiteral

/-- The value that a member starts with. -/
def initialValue (member : ConvertMember) : String :=
  match member.conversion with
  | .copy => StoredValue.member.toText member.source
  | _ => member.zero

/-- The line that starts a member. -/
def initialLine (member : ConvertMember) : String :=
  member.target ++ ": " ++ member.initialValue ++ ","

/-- The test and the statement of a step. -/
def stepTexts (member : ConvertMember) : ConversionStep → String × String
  | .assign guard value =>
    (guard.toText member.source, "dst." ++ member.target ++ " = " ++ value.toText member.source)
  | .decode guard =>
    (guard.toText member.source,
      "_ = json.Unmarshal(" ++ StoredValue.member.toText member.source ++ ", &dst." ++
        member.target ++ ")")

/-- The lines that set a member after the start. -/
def stepLines (member : ConvertMember) : List String :=
  member.conversion.step?.toList.flatMap fun step =>
    let texts := member.stepTexts step
    ["if " ++ texts.1 ++ " \x7b", indented 1 texts.2, "\x7d"]

end ConvertMember

/-! ## Functions -/

/-- A conversion function. -/
structure ConversionFunction where
  modelName : String
  storageName : String
  /-- The package of the route view. -/
  packageName : String
  /-- The end of the function's name. -/
  suffix : String
  members : List ConvertMember
  deriving Repr, DecidableEq

namespace ConversionFunction

/-- The function's name. -/
def name (function : ConversionFunction) : String :=
  "Convert" ++ function.modelName ++ "To" ++ function.suffix

/-- The type of the result, with its package. -/
def target (function : ConversionFunction) : String :=
  function.packageName ++ "." ++ function.modelName

/-- The type of the stored row, with its package. -/
def source (function : ConversionFunction) : String :=
  "model." ++ function.storageName

/-- The lines of a function. -/
def lines (function : ConversionFunction) : List String :=
  ["// " ++ function.name ++ " 将 " ++ function.source ++ " 转换为 " ++ function.target,
    "func " ++ function.name ++ "(src *" ++ function.source ++ ") *" ++ function.target ++ " \x7b",
    indented 1 ("dst := &" ++ function.target ++ "\x7b")] ++
    function.members.map (fun member => indented 2 member.initialLine) ++ [indented 1 "\x7d"] ++
    function.members.flatMap (fun member => member.stepLines.map (indented 1)) ++
    ["", indented 1 "return dst", "\x7d"]

/-- The text of a function. -/
def toText (function : ConversionFunction) : String :=
  textOfLines function.lines

end ConversionFunction

/-- The conversions of an entity's fields from the stored fields of the same columns. -/
def Entity.convertMembers (entity : Entity) (storage : List Field) : List ConvertMember :=
  List.zipWith ConvertMember.ofFields entity.fields storage

end TableCodegen
