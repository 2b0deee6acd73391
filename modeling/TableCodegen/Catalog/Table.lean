import TableCodegen.Catalog.Column
import TableCodegen.Catalog.Grouping

/-!
# Tables

What a run knows about a table: its comment, its columns in ordinal order and its index groupings.
-/

namespace TableCodegen

/-- A table as the documents see it. -/
structure Table where
  name : String
  comment : String
  columns : List Column
  indexes : TableIndexes

/-- The table that rows describe: columns in ordinal order, each with its indexes. -/
def Table.ofRows (enableInitialism : Bool) (name comment : String) (indexRows : List IndexRow)
    (columnRows : List ColumnRow) : Table :=
  let ordered := columnRows.mergeSort fun a b => a.ordinal ≤ b.ordinal
  { name := name
    comment := Text.trimmed comment
    columns := ordered.map fun row => Column.ofRow row indexRows
    indexes := TableIndexes.ofRows enableInitialism indexRows }

end TableCodegen
