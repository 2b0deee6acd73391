/-!
# Rows of a catalog

The rows that a database catalog gives about a table: one per column, and one per column of an index.
-/

namespace TableCodegen

/-- What the catalog says about a column. -/
structure ColumnRow where
  name : String := ""
  ordinal : UInt32 := 0
  default : Option String := none
  /-- `YES` or `NO`. -/
  nullable : String := ""
  dataType : String := ""
  charMaxLength : Option Int64 := none
  numericPrecision : Option Int64 := none
  numericScale : Option Int64 := none
  columnType : String := ""
  columnKey : String := ""
  extra : String := ""
  comment : String := ""
  deriving DecidableEq, Inhabited

/-- What the catalog says about one column of an index. -/
structure IndexRow where
  nonUnique : Int64 := 0
  indexName : String := ""
  seqInIndex : Int64 := 0
  columnName : String := ""
  indexComment : String := ""
  deriving DecidableEq, Inhabited

/-- The name of the primary index, which takes no part in index clauses. -/
def primaryIndex : String := "PRIMARY"

/-- The row belongs to an index other than the primary one. -/
def IndexRow.isSecondary (row : IndexRow) : Bool :=
  row.indexName != primaryIndex

/-- The row belongs to an index that allows no value twice. -/
def IndexRow.isUnique (row : IndexRow) : Bool :=
  row.nonUnique == 0

end TableCodegen
