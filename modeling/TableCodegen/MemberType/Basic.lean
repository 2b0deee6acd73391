/-!
# Types of generated members

A column becomes a structure member, and the member has one of a fixed set of types: a plain scalar, a
pointer to one, a wrapper that can hold an absent value, or the mark for a column that is not known.

Main definitions:

* `Scalar`: the plain types, with their spelling, shape and zero literal.
* `SqlWrapper`, `NullWrapper`, `NullPolicy`: the two families of nullable wrappers and the choice
  between them.
* `MemberType`: all types of members.
-/

namespace TableCodegen

/-- The coarse structure of a type. -/
inductive TypeShape where
  | scalar
  | pointer
  | collection
  | map
  | wrapper
  | unknown
  deriving Repr, DecidableEq

/-! ## Plain types -/

/-- A plain type. -/
inductive Scalar where
  | bool
  | int
  | int32
  | int64
  | uint
  | uint32
  | uint64
  | float32
  | float64
  | string
  | time
  | bytes
  /-- The decoded form of a JSON column. -/
  | jsonMap
  /-- The stored form of a JSON column. -/
  | storedJson
  /-- The mark of soft deletion. -/
  | deletedAt
  deriving Repr, DecidableEq

namespace Scalar

/-- The spelling of the type. -/
def toText : Scalar → String
  | bool => "bool"
  | int => "int"
  | int32 => "int32"
  | int64 => "int64"
  | uint => "uint"
  | uint32 => "uint32"
  | uint64 => "uint64"
  | float32 => "float32"
  | float64 => "float64"
  | string => "string"
  | time => "time.Time"
  | bytes => "[]byte"
  | jsonMap => "map[string]interface\x7b\x7d"
  | storedJson => "datatypes.JSON"
  | deletedAt => "gorm.DeletedAt"

/-- Byte strings and stored JSON are collections, decoded JSON is a map. -/
def shape : Scalar → TypeShape
  | bytes | storedJson => .collection
  | jsonMap => .map
  | _ => .scalar

/-- Collections and maps have an absent value of their own. -/
def isReference (s : Scalar) : Bool :=
  s.shape = .collection || s.shape = .map

/-- The signed integer of the same width; every other type is its own. -/
def signed : Scalar → Scalar
  | uint => int
  | uint32 => int32
  | uint64 => int64
  | s => s

/-- Integers without a sign. -/
def isUnsigned : Scalar → Bool
  | uint | uint32 | uint64 => true
  | _ => false

/-- Integers of any width and sign. -/
def isInteger : Scalar → Bool
  | int | int32 | int64 | uint | uint32 | uint64 => true
  | _ => false

/-- Binary floating point numbers. -/
def isFloat : Scalar → Bool
  | float32 | float64 => true
  | _ => false

/-- The literal for a member that holds nothing. -/
def emptyLiteral : Scalar → String
  | string => "\"\""
  | bool => "false"
  | time => "time.Now()"
  | bytes | jsonMap | storedJson => "nil"
  | deletedAt => "gorm.DeletedAt\x7b\x7d"
  | int | int32 | int64 | uint | uint32 | uint64 | float32 | float64 => "0"

end Scalar

/-! ## Wrappers of nullable columns -/

/-- The wrappers of the standard database package. -/
inductive SqlWrapper where
  | bool
  | int32
  | int64
  | float64
  | string
  | time
  deriving Repr, DecidableEq

/-- The spelling of the wrapper. -/
def SqlWrapper.toText : SqlWrapper → String
  | bool => "sql.NullBool"
  | int32 => "sql.NullInt32"
  | int64 => "sql.NullInt64"
  | float64 => "sql.NullFloat64"
  | string => "sql.NullString"
  | time => "sql.NullTime"

/-- The wrappers of the `null` package. -/
inductive NullWrapper where
  | bool
  | int
  | float
  | string
  | time
  deriving Repr, DecidableEq

/-- The spelling of the wrapper. -/
def NullWrapper.toText : NullWrapper → String
  | bool => "null.Bool"
  | int => "null.Int"
  | float => "null.Float"
  | string => "null.String"
  | time => "null.Time"

/-- How the nullable columns of a run are represented: by their plain types, or by one family of
    wrappers. -/
inductive NullPolicy where
  | plain
  | sqlNull
  | gureguNull
  deriving Repr, DecidableEq, Inhabited

/-- The package of a wrapper family. -/
def NullPolicy.package? : NullPolicy → Option String
  | plain => none
  | sqlNull => some "database/sql"
  | gureguNull => some "gopkg.in/guregu/null.v4"

/-! ## Types of members -/

/-- The default of a column that is set to the current time. -/
def currentTimestamp : String := "CURRENT_TIMESTAMP"

/-- The type of a generated member. -/
inductive MemberType where
  | scalar (s : Scalar)
  | pointer (s : Scalar)
  | sqlNull (w : SqlWrapper)
  | gureguNull (w : NullWrapper)
  | unknown
  deriving Repr, DecidableEq

namespace MemberType

/-- The spelling of the type. -/
def toText : MemberType → String
  | scalar s => s.toText
  | pointer s => "*" ++ s.toText
  | sqlNull w => w.toText
  | gureguNull w => w.toText
  | unknown => "unknown"

/-- The plain type under a plain type or a pointer. -/
def scalar? : MemberType → Option Scalar
  | scalar s | pointer s => some s
  | _ => none

/-- The coarse structure of the type. -/
def shape : MemberType → TypeShape
  | scalar s => s.shape
  | pointer _ => .pointer
  | sqlNull _ | gureguNull _ => .wrapper
  | unknown => .unknown

/-- Pointers to plain types. -/
def isPointer : MemberType → Bool
  | pointer _ => true
  | _ => false

/-- Types that have an absent value without a pointer. -/
def isReference (ty : MemberType) : Bool :=
  ty.shape = .collection || ty.shape = .map

/-- Times, whether plain, behind a pointer or in a wrapper. -/
def isTime : MemberType → Bool
  | scalar .time | pointer .time | sqlNull .time | gureguNull .time => true
  | _ => false

/-- The type is `s` or a pointer to it. -/
def isOf (s : Scalar) (ty : MemberType) : Bool :=
  ty.scalar? = some s

/-- A pointer to a plain type that has no absent value of its own; all other types stay. -/
def toPointer : MemberType → MemberType
  | scalar s => if s.isReference then scalar s else pointer s
  | ty => ty

/-- The type with a signed integer in place of an unsigned one. -/
def stripUnsigned : MemberType → MemberType
  | scalar s => scalar s.signed
  | pointer s => pointer s.signed
  | ty => ty

/-- The literal for a member that holds nothing. -/
def emptyLiteral : MemberType → String
  | scalar s => s.emptyLiteral
  | _ => "nil"

/-- A column default says no more than the zero value of the type does. -/
def isDefaultEmpty (default : String) (ty : MemberType) : Bool :=
  if default.isEmpty then true
  else match ty.scalar? with
    | none => true
    | some .string => false
    | some .bool => default == "false" || default == "0"
    | some .time => default == currentTimestamp
    | some s => if s.isInteger || s.isFloat then default == "0" else true

end MemberType

end TableCodegen
