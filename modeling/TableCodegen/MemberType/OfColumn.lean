import TableCodegen.MemberType.Basic
import TableCodegen.Text.Ascii
import TableCodegen.Text.Blank

/-!
# The type of a column

The data type keyword of a column belongs to one of eight families, and the family decides the member
type: its plain type, and the wrapper of each kind that takes its place when the column is nullable.

Main definitions:

* `TypeFamily`, `knownDataTypes`: the families and all their keywords.
* `mapType`: the member type of a column.
-/

namespace TableCodegen

open TableCodegen.Text

/-- The families of data type keywords. -/
inductive TypeFamily where
  | smallInteger
  | integer
  | bigInteger
  | text
  | temporal
  | single
  | double
  | binary
  deriving Repr, DecidableEq

namespace TypeFamily

/-- The families in the order in which keywords are looked up and listed. -/
def all : List TypeFamily :=
  [smallInteger, integer, bigInteger, text, temporal, single, double, binary]

/-- The keywords of a family. -/
def keywords : TypeFamily → List String
  | smallInteger => ["tinyint", "smallint", "mediumint"]
  | integer => ["int", "integer"]
  | bigInteger => ["bigint"]
  | text =>
    ["json", "enum", "set", "char", "varchar", "tinytext", "text", "mediumtext", "longtext"]
  | temporal => ["year", "date", "datetime", "time", "timestamp"]
  | single => ["float"]
  | double => ["double", "real", "decimal", "numeric"]
  | binary => ["bit", "binary", "varbinary", "tinyblob", "blob", "mediumblob", "longblob"]

/-- The family of a keyword in small letters. -/
def ofKeyword? (keyword : String) : Option TypeFamily :=
  all.find? fun family => family.keywords.contains keyword

end TypeFamily

/-- Every keyword that has a family, listed apart from the families. -/
def knownDataTypes : List String :=
  TypeFamily.smallInteger.keywords ++ TypeFamily.integer.keywords ++ ["bigint"] ++
    TypeFamily.text.keywords ++ TypeFamily.temporal.keywords ++ ["float"] ++
    TypeFamily.double.keywords ++ TypeFamily.binary.keywords

/-- A data type as keywords are written: without blanks around it, in small letters. -/
def normalKeyword (dataType : String) : String :=
  asciiLower (trimmed dataType)

/-- The wrapper of a nullable column under a policy that has wrappers, or the plain type. -/
def wrapNullable (nullable : Bool) (policy : NullPolicy) (sql : SqlWrapper) (guregu : NullWrapper)
    (plain : Scalar) : MemberType :=
  match nullable, policy with
  | true, .gureguNull => .gureguNull guregu
  | true, .sqlNull => .sqlNull sql
  | _, _ => .scalar plain

/-- The facts about a column that decide its type, apart from the data type. -/
structure TypeTraits where
  nullable : Bool
  unsigned : Bool
  /-- The column is a small integer that stands for a truth value. -/
  isBool : Bool
  deriving Repr, DecidableEq

/-- The member type of a family. -/
def TypeFamily.memberType (family : TypeFamily) (traits : TypeTraits) (policy : NullPolicy) :
    MemberType :=
  let wrap := wrapNullable traits.nullable policy
  match family with
  | smallInteger =>
    if traits.isBool then wrap .bool .bool .bool
    else wrap .int32 .int (if traits.unsigned then .uint32 else .int32)
  | integer => wrap .int64 .int (if traits.unsigned then .uint else .int)
  | bigInteger => wrap .int64 .int (if traits.unsigned then .uint64 else .int64)
  | text => wrap .string .string .string
  | temporal => wrap .time .time .time
  | single => wrap .float64 .float .float32
  | double => wrap .float64 .float .float64
  | binary => .scalar .bytes

/-- The member type of a column with the given data type. -/
def mapType (dataType : String) (traits : TypeTraits) (policy : NullPolicy) : MemberType :=
  match TypeFamily.ofKeyword? (normalKeyword dataType) with
  | some family => family.memberType traits policy
  | none => .unknown

end TableCodegen
