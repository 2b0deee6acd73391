import TableCodegen.Field.Basic

/-!
# Views of fields

Two views that follow from the model view. The route view has the types that travel in requests: times
are numbers of milliseconds, JSON is decoded. The storage view has the types that the stored model needs:
times are pointers, JSON is stored as it is, and a column with a default is a pointer, so that the default
can apply.

Main definitions:

* `Field.toApi`: a field in the route view.
* `Field.toStorage`, `storageFields`: fields in the storage view.
-/

namespace TableCodegen

namespace Field

/-- The integer of fixed width for a platform integer: wide, but small when values are enumerated. -/
def fixedInt (field : Field) : Scalar :=
  if field.enums.isEmpty then .int64 else .int32

/-- The unsigned integer of fixed width for a platform integer. -/
def fixedUint (field : Field) : Scalar :=
  if field.enums.isEmpty then .uint64 else .uint32

/-- The field's values are 0 and 1. -/
def hasBoolEnum (field : Field) : Bool :=
  field.enums == Remark.boolEnums

/-- The field in the route view. -/
def toApi (config : GenerationConfig) (field : Field) : Field :=
  let type := if config.disableUnsigned then field.type.stripUnsigned else field.type
  if field.isJson then { field with type := .scalar .jsonMap }
  else if type.isOf .time then { field with type := .scalar .int64 }
  else if type.isOf .bool && field.hasBoolEnum then { field with type := type, comment := field.label }
  else if type.isOf .int then { field with type := .scalar field.fixedInt }
  else if type.isOf .uint then { field with type := .scalar field.fixedUint }
  else { field with type := type }

/-- The stored type of a column that is not JSON, before its default is looked at. -/
def storedType (field : Field) : MemberType :=
  let type := field.type.stripUnsigned
  if type.isOf .time then
    if field.rawName == deletedAtColumn then .scalar .deletedAt else .pointer .time
  else if type.isOf .int then .scalar field.fixedInt
  else type

/-- The field in the storage view. -/
def toStorage (field : Field) : Field :=
  let type := if field.isJson then .scalar .storedJson else field.storedType
  { field with
    name := Naming.replaceInitialisms field.name
    type := if field.hasDefault then type.toPointer else type
    comment :=
      if field.type.stripUnsigned.isOf .bool && field.hasBoolEnum then field.label
      else field.comment }

end Field

/-- Fields in the storage view. -/
def storageFields (fields : List Field) : List Field :=
  fields.map Field.toStorage

end TableCodegen
