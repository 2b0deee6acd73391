import TableCodegen.Catalog.Row
import TableCodegen.Naming.Initialism
import TableCodegen.Text.Literal

/-!
# Index groupings of a table

For each index of a table, the exported names of its columns as quoted literals, joined by commas.
Indexes come in the order of their names and columns in the order of their place in the index, whatever
the order of the rows; of equal groupings the first stays.
-/

namespace TableCodegen

/-- The first occurrence of every text, in order. -/
def uniqueStrings (values : List String) : List String :=
  values.foldl (fun kept value => if kept.contains value then kept else kept ++ [value]) []

/-- The index groupings of a table. -/
structure TableIndexes where
  normal : List String
  unique : List String
  deriving Repr, DecidableEq, Inhabited

namespace TableIndexes

/-- A column of an index as a quoted exported name. -/
def quotedColumn (enableInitialism : Bool) (row : IndexRow) : String :=
  String.ofList (Text.literal (Naming.exportedChars enableInitialism row.columnName.toList))

/-- The rows of one index in the order of their place in it, as one grouping. -/
def grouping (enableInitialism : Bool) (rows : List IndexRow) : String :=
  let ordered := rows.mergeSort fun a b => a.seqInIndex ≤ b.seqInIndex
  ",".intercalate (ordered.map (quotedColumn enableInitialism))

/-- The names of the indexes that rows speak of, ascending and each once. -/
def indexNames (rows : List IndexRow) : List String :=
  uniqueStrings ((rows.map (·.indexName)).mergeSort (· ≤ ·))

/-- One grouping per index, equal ones dropped. -/
def groupings (enableInitialism : Bool) (rows : List IndexRow) : List String :=
  uniqueStrings ((indexNames rows).map fun name =>
    grouping enableInitialism (rows.filter (·.indexName == name)))

/-- The groupings of a table's index rows. -/
def ofRows (enableInitialism : Bool) (rows : List IndexRow) : TableIndexes :=
  let secondary := rows.filter (·.isSecondary)
  { normal := groupings enableInitialism (secondary.filter fun row => !row.isUnique)
    unique := groupings enableInitialism (secondary.filter fun row => row.isUnique) }

/-- The table has no secondary index. -/
def isEmpty (indexes : TableIndexes) : Bool :=
  indexes.normal.isEmpty && indexes.unique.isEmpty

end TableIndexes

end TableCodegen
