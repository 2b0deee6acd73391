import TableCodegen.Remark
import TableCodegen.Catalog.Row
import TableCodegen.Text.Ascii
import TableCodegen.Text.Search

/-!
# Columns

A column row together with the indexes the column takes part in, and the flags that follow from both.
-/

namespace TableCodegen

open TableCodegen.Text

/-- An index that a column takes part in. -/
structure ColumnIndex where
  name : String
  sequence : Int64
  unique : Bool
  comment : String
  deriving DecidableEq

/-- The index that a row speaks of. -/
def IndexRow.toColumnIndex (row : IndexRow) : ColumnIndex :=
  ⟨row.indexName, row.seqInIndex, row.isUnique, row.indexComment⟩

/-- A column with its derived flags. -/
structure Column where
  name : String
  ordinal : UInt32
  dataType : String
  columnType : String
  nullable : Bool
  /-- The default without blanks around it; empty when there is none. -/
  default : String
  length : Int64
  precision : Int64
  scale : Int64
  primaryKey : Bool
  autoIncrement : Bool
  unsigned : Bool
  comment : String
  /-- The indexes that allow a value twice. -/
  indexes : List ColumnIndex
  uniqueIndexes : List ColumnIndex
  deriving DecidableEq

namespace Column

/-- The secondary indexes of the column with the given name. -/
def indexesOf (name : String) (rows : List IndexRow) : List ColumnIndex :=
  (rows.filter fun row => row.isSecondary && row.columnName == name).map IndexRow.toColumnIndex

/-- The column of a row, with its secondary indexes. -/
def ofRow (row : ColumnRow) (rows : List IndexRow) : Column :=
  let indexes := indexesOf row.name rows
  { name := row.name
    ordinal := row.ordinal
    dataType := row.dataType
    columnType := row.columnType
    nullable := equalIgnoringCase row.nullable "YES"
    default := trimmed (row.default.getD "")
    length := row.charMaxLength.getD 0
    precision := row.numericPrecision.getD 0
    scale := row.numericScale.getD 0
    primaryKey := row.columnKey == "PRI"
    autoIncrement := occursIn "auto_increment" row.extra
    unsigned := occursIn "unsigned" row.columnType
    comment := trimmed row.comment
    indexes := indexes.filter fun index => !index.unique
    uniqueIndexes := indexes.filter fun index => index.unique }

/-- A one-digit small integer whose comment lists no values, or just 0 and 1. -/
def isBoolColumn (column : Column) : Bool :=
  let remark := Remark.ofComment column.comment
  occursIn "tinyint(1)" column.columnType && (!remark.hasEnums || remark.isBoolEnum)

end Column

end TableCodegen
