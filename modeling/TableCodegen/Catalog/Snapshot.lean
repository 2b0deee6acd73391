import TableCodegen.Catalog.Row
import TableCodegen.Data.Decode

/-!
# Catalog snapshots

The rows of all tables of a catalog, captured in a file. Tables are kept in the order of their names.

Main definitions:

* `Snapshot`, `Snapshot.insert`: a snapshot and one more table in it.
* `ColumnRow.ofTree?`, `IndexRow.ofTree?`, `Snapshot.ofTree?`: reading from document trees.
* `ColumnRow.toTree`, `IndexRow.toTree`, `Snapshot.toTree`: writing as document trees.
-/

namespace TableCodegen

/-- The rows of a table. -/
structure SnapshotTable where
  comment : String := ""
  columns : List ColumnRow := []
  indexes : List IndexRow := []
  deriving DecidableEq, Inhabited

/-- The list with the value of a key set, in the order of the keys. -/
def insertSorted {α : Type} (key : String) (value : α) : List (String × α) → List (String × α)
  | [] => [(key, value)]
  | (k, v) :: rest =>
    if key < k then (key, value) :: (k, v) :: rest
    else if key = k then (key, value) :: rest
    else (k, v) :: insertSorted key value rest

/-- Every entry after an insertion is the new one or an old one. -/
theorem mem_insertSorted {α : Type} {key : String} {value : α} {entries : List (String × α)}
    {entry : String × α} (h : entry ∈ insertSorted key value entries) :
    entry = (key, value) ∨ entry ∈ entries := by
  induction entries with
  | nil => simp only [insertSorted, List.mem_singleton] at h; exact .inl h
  | cons head rest ih =>
    obtain ⟨k, v⟩ := head
    simp only [insertSorted] at h
    split at h
    · exact List.mem_cons.1 h
    · split at h
      · rcases List.mem_cons.1 h with h | h
        · exact .inl h
        · exact .inr (List.mem_cons_of_mem _ h)
      · rcases List.mem_cons.1 h with h | h
        · exact .inr (h ▸ List.mem_cons_self)
        · exact (ih h).imp_right (List.mem_cons_of_mem _)

/-- An insertion keeps the keys in strictly ascending order. -/
theorem pairwise_insertSorted {α : Type} (key : String) (value : α) {entries : List (String × α)}
    (h : entries.Pairwise fun a b => a.1 < b.1) :
    (insertSorted key value entries).Pairwise fun a b => a.1 < b.1 := by
  induction entries with
  | nil => simp [insertSorted]
  | cons head rest ih =>
    obtain ⟨k, v⟩ := head
    obtain ⟨hk, hrest⟩ := List.pairwise_cons.1 h
    simp only [insertSorted]
    split
    · rename_i hlt
      refine List.pairwise_cons.2 ⟨fun entry hmem => ?_, h⟩
      rcases List.mem_cons.1 hmem with rfl | hmem
      · exact hlt
      · exact String.lt_trans hlt (hk entry hmem)
    · rename_i hge
      split
      · rename_i heq
        subst heq
        exact List.pairwise_cons.2 ⟨hk, hrest⟩
      · rename_i hne
        refine List.pairwise_cons.2 ⟨fun entry hmem => ?_, ih hrest⟩
        rcases mem_insertSorted hmem with rfl | hmem
        · exact String.not_le.1 fun hle => hne (String.le_antisymm hle (String.not_lt.1 hge))
        · exact hk entry hmem

/-- The tables of a catalog, in the order of their names. -/
structure Snapshot where
  tables : List (String × SnapshotTable) := []
  sorted : tables.Pairwise fun a b => a.1 < b.1 := by exact List.Pairwise.nil

namespace Snapshot

/-- The snapshot without tables. -/
def empty : Snapshot := {}

instance : Inhabited Snapshot := ⟨empty⟩

/-- The snapshot with one table set. -/
def insert (name : String) (table : SnapshotTable) (snapshot : Snapshot) : Snapshot :=
  ⟨insertSorted name table snapshot.tables, pairwise_insertSorted name table snapshot.sorted⟩

/-- The rows of a table, if the snapshot has it. -/
def find? (snapshot : Snapshot) (name : String) : Option SnapshotTable :=
  snapshot.tables.lookup name

end Snapshot

/-! ## Reading -/

/-- The names of the fields of a column row. -/
def ColumnRow.fields : List String := [
  "name", "ordinal", "default", "nullable", "data_type", "char_max_length", "numeric_precision",
  "numeric_scale", "column_type", "column_key", "extra", "comment"]

/-- Reads a column row. -/
def ColumnRow.ofTree? (tree : Tree) : Option ColumnRow := do
  let es ← tree.recordEntries? ColumnRow.fields
  return {
    name := ← Tree.field es ["name"] "" Tree.asText
    ordinal := ← Tree.field es ["ordinal"] 0 Tree.asUInt32
    default := ← Tree.field es ["default"] none (Tree.asOptional Tree.asText)
    nullable := ← Tree.field es ["nullable"] "" Tree.asText
    dataType := ← Tree.field es ["data_type"] "" Tree.asText
    charMaxLength := ← Tree.field es ["char_max_length"] none (Tree.asOptional Tree.asInt64)
    numericPrecision := ← Tree.field es ["numeric_precision"] none (Tree.asOptional Tree.asInt64)
    numericScale := ← Tree.field es ["numeric_scale"] none (Tree.asOptional Tree.asInt64)
    columnType := ← Tree.field es ["column_type"] "" Tree.asText
    columnKey := ← Tree.field es ["column_key"] "" Tree.asText
    extra := ← Tree.field es ["extra"] "" Tree.asText
    comment := ← Tree.field es ["comment"] "" Tree.asText }

/-- The names of the fields of an index row. -/
def IndexRow.fields : List String :=
  ["non_unique", "index_name", "seq_in_index", "column_name", "index_comment"]

/-- Reads an index row. -/
def IndexRow.ofTree? (tree : Tree) : Option IndexRow := do
  let es ← tree.recordEntries? IndexRow.fields
  return {
    nonUnique := ← Tree.field es ["non_unique"] 0 Tree.asInt64
    indexName := ← Tree.field es ["index_name"] "" Tree.asText
    seqInIndex := ← Tree.field es ["seq_in_index"] 0 Tree.asInt64
    columnName := ← Tree.field es ["column_name"] "" Tree.asText
    indexComment := ← Tree.field es ["index_comment"] "" Tree.asText }

/-- Reads the rows of a table. -/
def SnapshotTable.ofTree? (tree : Tree) : Option SnapshotTable := do
  let es ← tree.recordEntries? ["comment", "columns", "indexes"]
  return {
    comment := ← Tree.field es ["comment"] "" Tree.asText
    columns := ← Tree.field es ["columns"] [] (Tree.asList ColumnRow.ofTree?)
    indexes := ← Tree.field es ["indexes"] [] (Tree.asList IndexRow.ofTree?) }

/-- Reads the tables of a snapshot from the entries of a map; of two tables of one name the last
    stays. -/
def Snapshot.ofEntries? (entries : List (String × Tree)) : Option Snapshot :=
  entries.foldlM (fun snapshot entry => do
    return snapshot.insert entry.1 (← SnapshotTable.ofTree? entry.2)) Snapshot.empty

/-- Reads a snapshot. -/
def Snapshot.ofTree? (tree : Tree) : Option Snapshot := do
  let es ← tree.recordEntries? ["tables"]
  Tree.field es ["tables"] Snapshot.empty fun tables => do
    Snapshot.ofEntries? (← tables.entries?)

/-! ## Writing -/

/-- A value that may be absent, as a tree. -/
def Tree.ofOptional {α : Type} (write : α → Tree) : Option α → Tree
  | none => .null
  | some value => write value

/-- A signed integer as a tree. -/
def Tree.ofInt64 (i : Int64) : Tree := .int i.toInt

/-- A column row as a tree. -/
def ColumnRow.toTree (row : ColumnRow) : Tree :=
  .map [
    ("name", .text row.name), ("ordinal", .int row.ordinal.toNat),
    ("default", Tree.ofOptional .text row.default), ("nullable", .text row.nullable),
    ("data_type", .text row.dataType),
    ("char_max_length", Tree.ofOptional Tree.ofInt64 row.charMaxLength),
    ("numeric_precision", Tree.ofOptional Tree.ofInt64 row.numericPrecision),
    ("numeric_scale", Tree.ofOptional Tree.ofInt64 row.numericScale),
    ("column_type", .text row.columnType), ("column_key", .text row.columnKey),
    ("extra", .text row.extra), ("comment", .text row.comment)]

/-- An index row as a tree. -/
def IndexRow.toTree (row : IndexRow) : Tree :=
  .map [
    ("non_unique", Tree.ofInt64 row.nonUnique), ("index_name", .text row.indexName),
    ("seq_in_index", Tree.ofInt64 row.seqInIndex), ("column_name", .text row.columnName),
    ("index_comment", .text row.indexComment)]

/-- The rows of a table as a tree. -/
def SnapshotTable.toTree (table : SnapshotTable) : Tree :=
  .map [
    ("comment", .text table.comment), ("columns", .list (table.columns.map ColumnRow.toTree)),
    ("indexes", .list (table.indexes.map IndexRow.toTree))]

/-- A snapshot as a tree. -/
def Snapshot.toTree (snapshot : Snapshot) : Tree :=
  .map [("tables", .map (snapshot.tables.map fun entry => (entry.1, entry.2.toTree)))]

end TableCodegen
