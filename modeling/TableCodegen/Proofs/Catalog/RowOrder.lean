import TableCodegen.Proofs.Document.IndexLists
import TableCodegen.Proofs.Project.Snapshot

/-!
# Order of snapshot rows

A snapshot answers with rows in the order in which its file has them, and the rows of a table are put in order when
the table is read: columns by ordinal, index groupings by name and place. The list of the indexes that a column takes
part in is the exception. It relies on index rows that come by name and place, as a catalog is meant to give them, and
a snapshot does not see to that. So the same rows in another order give another table just if the secondary index rows
of some column change places among each other. Of all that is written, the change shows in the tags that list indexes,
and nowhere else.

Results:

* `SnapshotTable.Reordered.bare_table`: the table without the lists of its columns.
* `SnapshotTable.Reordered.table_eq_iff`: when the order of the rows makes no difference.
* `Table.sameButLists_of_bare`: what is written for tables that differ in these lists.
* `readTable_reordered`: the reading of reordered rows.
-/

namespace TableCodegen

/-! ## Specification -/

/-- The same rows in another order. -/
structure SnapshotTable.Reordered (rows again : SnapshotTable) : Prop where
  comment : again.comment = rows.comment
  columns : again.columns.Perm rows.columns
  indexes : again.indexes.Perm rows.indexes

/-- No two columns have one ordinal, and no two index rows have one index and place. -/
structure SnapshotTable.DistinctRows (rows : SnapshotTable) : Prop where
  columns : (rows.columns.map (·.ordinal)).Nodup
  indexes : (rows.indexes.map fun row => (row.indexName, row.seqInIndex)).Nodup

/-- The rows of a column's secondary indexes of one kind. -/
def indexRowsOf (rows : List IndexRow) (unique : Bool) (column : String) : List IndexRow :=
  rows.filter fun row => row.isSecondary && row.columnName == column && row.isUnique == unique

/-- The index rows of each column come in the same order. -/
def SnapshotTable.SameIndexOrder (rows again : SnapshotTable) : Prop :=
  ∀ column ∈ rows.columns, ∀ unique,
    indexRowsOf again.indexes unique column.name = indexRowsOf rows.indexes unique column.name

instance (rows again : SnapshotTable) : Decidable (rows.SameIndexOrder again) :=
  inferInstanceAs (Decidable (∀ column ∈ rows.columns, ∀ unique, indexRowsOf _ unique _ = indexRowsOf _ unique _))

/-- The tables differ at most in the order of the lists of their columns, and what is written for them agrees but
for the tags that show these lists. -/
structure Table.SameButLists (again table : Table) : Prop where
  bare : again.bare = table.bare
  lists : List.Forall₂ (fun a b : Column => a.indexes.Perm b.indexes ∧ a.uniqueIndexes.Perm b.uniqueIndexes)
    again.columns table.columns
  tags : ∀ dialect : TagDialect, dialect.listsIndexes = false →
    again.columns.map (tagOf dialect) = table.columns.map (tagOf dialect)
  models : ∀ (config : GenerationConfig) (structName : String) (view : ModelView),
    (ModelDocument.ofTable again structName (view.fields config again.columns) config).untagged =
        (ModelDocument.ofTable table structName (view.fields config table.columns) config).untagged ∧
      ((∀ dialect ∈ enabledDialects config, dialect.listsIndexes = false) →
        ModelDocument.ofTable again structName (view.fields config again.columns) config =
          ModelDocument.ofTable table structName (view.fields config table.columns) config)
  routes : ∀ (config : GenerationConfig) (api : ApiConfig) (validator : RouteValidator) (formatter : SourceFormatter),
    renderRoutes (buildEntity again config api) api validator formatter =
      renderRoutes (buildEntity table config api) api validator formatter
  gists : ∀ (config : GenerationConfig) (api : ApiConfig) (formatter : SourceFormatter),
    renderGists (buildEntity again config api) (storageFields (buildFields config again.columns)) formatter =
      renderGists (buildEntity table config api) (storageFields (buildFields config table.columns)) formatter

/-! ## Lists of columns -/

theorem filter_indexesOf (rows : List IndexRow) (unique : Bool) (column : String) :
    ((Column.indexesOf column rows).filter fun index => index.unique == unique) =
      (indexRowsOf rows unique column).map IndexRow.toColumnIndex := by
  rw [Column.indexesOf, List.filter_map, List.filter_filter, indexRowsOf]
  refine congrArg (List.map IndexRow.toColumnIndex) (List.filter_congr fun row _ => ?_)
  exact Bool.and_comm _ _

theorem indexes_ofRow (row : ColumnRow) (rows : List IndexRow) :
    (Column.ofRow row rows).indexes = (indexRowsOf rows false row.name).map IndexRow.toColumnIndex := by
  rw [← filter_indexesOf]
  exact List.filter_congr fun index _ => by simp

theorem uniqueIndexes_ofRow (row : ColumnRow) (rows : List IndexRow) :
    (Column.ofRow row rows).uniqueIndexes = (indexRowsOf rows true row.name).map IndexRow.toColumnIndex := by
  rw [← filter_indexesOf]
  exact List.filter_congr fun index _ => by simp

/-- Lists are equal when their images are, as far as the function tells their members apart. -/
theorem eq_of_map_eq_map {α β : Type} {f : α → β} {list other : List α}
    (hinj : ∀ a ∈ list, ∀ b ∈ other, f a = f b → a = b) (h : list.map f = other.map f) : list = other := by
  induction list generalizing other with
  | nil => exact (List.map_eq_nil_iff.mp h.symm).symm
  | cons a list ih =>
    cases other with
    | nil => cases h
    | cons b other =>
      obtain ⟨hhead, htail⟩ := List.cons_eq_cons.mp h
      rw [hinj a List.mem_cons_self b List.mem_cons_self hhead, ih (fun a ha b hb =>
        hinj a (List.mem_cons_of_mem _ ha) b (List.mem_cons_of_mem _ hb)) htail]

theorem Column.eq_of_bare {column other : Column} (hbare : column.bare = other.bare)
    (hindexes : column.indexes = other.indexes) (hunique : column.uniqueIndexes = other.uniqueIndexes) :
    column = other :=
  calc column
      = { column.bare with indexes := column.indexes, uniqueIndexes := column.uniqueIndexes } := rfl
    _ = { other.bare with indexes := other.indexes, uniqueIndexes := other.uniqueIndexes } := by
      rw [hbare, hindexes, hunique]
    _ = other := rfl

theorem bare_ofRow (row : ColumnRow) (rows others : List IndexRow) :
    (Column.ofRow row others).bare = (Column.ofRow row rows).bare :=
  rfl

/-! ## Tables of reordered rows -/

/-- Columns have one order by distinct ordinals. -/
theorem mergeSort_ordinal_eq {rows again : List ColumnRow} (hperm : again.Perm rows)
    (h : (rows.map (·.ordinal)).Nodup) :
    (again.mergeSort fun a b => a.ordinal ≤ b.ordinal) = rows.mergeSort fun a b => a.ordinal ≤ b.ordinal := by
  have hsorted (list : List ColumnRow) := pairwise_mergeSort_key ColumnRow.ordinal list
  have hrows := List.mergeSort_perm rows fun a b => a.ordinal ≤ b.ordinal
  have hsame := (List.mergeSort_perm again fun a b => a.ordinal ≤ b.ordinal).trans (hperm.trans hrows.symm)
  refine hsame.eq_of_pairwise (fun a b ha hb hle hge => ?_) (hsorted again) (hsorted rows)
  refine List.inj_on_of_nodup_map h (hrows.mem_iff.mp (hsame.mem_iff.mp ha)) (hrows.mem_iff.mp hb) ?_
  exact UInt32.le_antisymm hle hge

theorem Table.eq_of_parts {table other : Table} (hname : table.name = other.name)
    (hcomment : table.comment = other.comment) (hcolumns : table.columns = other.columns)
    (hindexes : table.indexes = other.indexes) : table = other := by
  cases table
  cases other
  cases hname
  cases hcomment
  cases hcolumns
  cases hindexes
  rfl

namespace SnapshotTable

variable {rows again : SnapshotTable}

/-- The table that rows give. -/
def table (enableInitialism : Bool) (name : String) (rows : SnapshotTable) : Table :=
  Table.ofRows enableInitialism name rows.comment rows.indexes rows.columns

theorem columns_table_self (enableInitialism : Bool) (name : String) (rows : SnapshotTable) :
    (rows.table enableInitialism name).columns =
      (rows.columns.mergeSort fun a b => a.ordinal ≤ b.ordinal).map fun row => Column.ofRow row rows.indexes :=
  rfl

theorem DistinctRows.distinctPlaces (h : rows.DistinctRows) : DistinctPlaces rows.indexes := by
  have hpairs := List.pairwise_map.mp h.indexes
  exact hpairs.imp fun hne hname _ hplace => hne (Prod.ext hname hplace)

/-- The index of a row tells the row. -/
theorem DistinctRows.eq_of_toColumnIndex (h : rows.DistinctRows) {a b : IndexRow} (ha : a ∈ rows.indexes)
    (hb : b ∈ rows.indexes) (hindex : a.toColumnIndex = b.toColumnIndex) : a = b := by
  refine List.inj_on_of_nodup_map h.indexes ha hb ?_
  exact Prod.ext (congrArg ColumnIndex.name hindex) (congrArg ColumnIndex.sequence hindex)

namespace Reordered

variable (horder : rows.Reordered again)

include horder

theorem comment_table (enableInitialism : Bool) (name : String) :
    (again.table enableInitialism name).comment = (rows.table enableInitialism name).comment :=
  congrArg Text.trimmed horder.comment

variable (hdistinct : rows.DistinctRows)

include hdistinct

theorem ofRow_eq_iff (row : ColumnRow) : Column.ofRow row again.indexes = Column.ofRow row rows.indexes ↔
    ∀ unique, indexRowsOf again.indexes unique row.name = indexRowsOf rows.indexes unique row.name := by
  have hlist (unique : Bool) (h : (indexRowsOf again.indexes unique row.name).map IndexRow.toColumnIndex =
      (indexRowsOf rows.indexes unique row.name).map IndexRow.toColumnIndex) :
      indexRowsOf again.indexes unique row.name = indexRowsOf rows.indexes unique row.name := by
    refine eq_of_map_eq_map (fun a ha b hb hindex => ?_) h
    exact hdistinct.eq_of_toColumnIndex (horder.indexes.mem_iff.mp (List.mem_filter.mp ha).1)
      (List.mem_filter.mp hb).1 hindex
  constructor
  · intro h unique
    cases unique with
    | false =>
      refine hlist false ?_
      rw [← indexes_ofRow, ← indexes_ofRow, h]
    | true =>
      refine hlist true ?_
      rw [← uniqueIndexes_ofRow, ← uniqueIndexes_ofRow, h]
  · intro h
    refine Column.eq_of_bare (bare_ofRow row _ _) ?_ ?_
    · rw [indexes_ofRow, indexes_ofRow, h]
    · rw [uniqueIndexes_ofRow, uniqueIndexes_ofRow, h]

variable (enableInitialism : Bool) (name : String)

theorem columns_table :
    (again.table enableInitialism name).columns =
      (rows.columns.mergeSort fun a b => a.ordinal ≤ b.ordinal).map fun row => Column.ofRow row again.indexes := by
  rw [columns_table_self, mergeSort_ordinal_eq horder.columns hdistinct.columns]

theorem indexes_table : (again.table enableInitialism name).indexes = (rows.table enableInitialism name).indexes :=
  TableIndexes.ofRows_perm enableInitialism hdistinct.distinctPlaces horder.indexes

theorem bare_table : (again.table enableInitialism name).bare = (rows.table enableInitialism name).bare := by
  have hcolumns : (again.table enableInitialism name).columns.map Column.bare =
      (rows.table enableInitialism name).columns.map Column.bare := by
    rw [horder.columns_table hdistinct, columns_table_self, List.map_map, List.map_map]
    rfl
  exact Table.eq_of_parts rfl (horder.comment_table enableInitialism name) hcolumns
    (horder.indexes_table hdistinct enableInitialism name)

theorem table_eq_iff :
    again.table enableInitialism name = rows.table enableInitialism name ↔ rows.SameIndexOrder again := by
  have hcolumns : again.table enableInitialism name = rows.table enableInitialism name ↔
      (again.table enableInitialism name).columns = (rows.table enableInitialism name).columns :=
    ⟨congrArg Table.columns, fun h => Table.eq_of_parts rfl (horder.comment_table enableInitialism name) h
      (horder.indexes_table hdistinct enableInitialism name)⟩
  rw [hcolumns, horder.columns_table hdistinct, columns_table_self, List.map_inj_left]
  simp only [List.mem_mergeSort, horder.ofRow_eq_iff hdistinct]
  rfl

theorem lists_table : List.Forall₂
    (fun a b : Column => a.indexes.Perm b.indexes ∧ a.uniqueIndexes.Perm b.uniqueIndexes)
    (again.table enableInitialism name).columns (rows.table enableInitialism name).columns := by
  rw [horder.columns_table hdistinct, columns_table_self, List.forall₂_map_left_iff, List.forall₂_map_right_iff,
    List.forall₂_same]
  intro row _
  have hlists (unique : Bool) : (indexRowsOf again.indexes unique row.name).Perm
      (indexRowsOf rows.indexes unique row.name) := horder.indexes.filter _
  rw [indexes_ofRow, indexes_ofRow, uniqueIndexes_ofRow, uniqueIndexes_ofRow]
  exact ⟨(hlists false).map _, (hlists true).map _⟩

end Reordered

end SnapshotTable

/-! ## What is written -/

theorem Table.sameButLists_of_bare {again table : Table} (h : again.bare = table.bare)
    (hlists : List.Forall₂ (fun a b : Column => a.indexes.Perm b.indexes ∧ a.uniqueIndexes.Perm b.uniqueIndexes)
      again.columns table.columns) : again.SameButLists table where
  bare := h
  lists := hlists
  tags dialect hdialect := by
    have hbare (columns : List Column) :
        columns.map (tagOf dialect) = (columns.map Column.bare).map (tagOf dialect) := by
      rw [List.map_map]
      exact List.map_congr_left fun column _ => (tagOf_bare hdialect column).symm
    rw [hbare, hbare table.columns]
    exact congrArg (fun table : Table => table.columns.map (tagOf dialect)) h
  models config structName view := by
    constructor
    · rw [← ModelDocument.untagged_ofTable_bare, h, ModelDocument.untagged_ofTable_bare]
    · intro hdialects
      rw [← ModelDocument.ofTable_bare again structName view hdialects, h,
        ModelDocument.ofTable_bare table structName view hdialects]
  routes config api validator formatter := by rw [← renderRoutes_bare, h, renderRoutes_bare]
  gists config api formatter := by rw [← renderGists_bare, h, renderGists_bare]

/-! ## Reading -/

/-- Reading the rows of a snapshot in another order. The tables agree in all but the order of the lists of their
columns, and so does what is written for them but for the tags that show these lists. They are equal just if the
secondary index rows of each column, unique or not, come in the same order. -/
theorem readTable_reordered {snapshot reordered : Snapshot} {name : String} {rows again : SnapshotTable}
    (hrows : snapshot.find? name = some rows) (hagain : reordered.find? name = some again)
    (hdistinct : rows.DistinctRows) (horder : rows.Reordered again) (enableInitialism : Bool) (before : RunState) :
    ∃ table other after,
      Run.Returns (readTable snapshot.reader enableInitialism name) before table after ∧
      Run.Returns (readTable reordered.reader enableInitialism name) before other after ∧
      other.SameButLists table ∧ (other = table ↔ rows.SameIndexOrder again) := by
  have hread {snapshot : Snapshot} {rows : SnapshotTable} (h : snapshot.find? name = some rows) :
      Run.Returns (readTable snapshot.reader enableInitialism name) before (rows.table enableInitialism name)
        { before with calls := before.calls ++ readerCalls name } := by
    refine returns_readTable.mpr ⟨Snapshot.answers_iff.mpr ?_, rfl⟩
    rw [Snapshot.table, h]
    rfl
  refine ⟨_, _, _, hread hrows, hread hagain, ?_, horder.table_eq_iff hdistinct enableInitialism name⟩
  exact Table.sameButLists_of_bare (horder.bare_table hdistinct enableInitialism name)
    (horder.lists_table hdistinct enableInitialism name)

/-- The rows of a table with one column, and with the given indexes of it. -/
def SnapshotTable.ofEmail (indexes : List String) : SnapshotTable where
  comment := "users"
  columns := [{ name := "email", ordinal := 1, dataType := "varchar", columnType := "varchar(64)" }]
  indexes := indexes.map fun index => { nonUnique := 1, indexName := index, seqInIndex := 1, columnName := "email" }

/-- Two indexes of one column that change places give another table. -/
theorem readTable_swapped_indexes :
    ∃ table other after,
      Run.Returns (readTable (Snapshot.empty.insert "user" (.ofEmail ["by_email", "by_login"])).reader false "user")
        {} table after ∧
      Run.Returns (readTable (Snapshot.empty.insert "user" (.ofEmail ["by_login", "by_email"])).reader false "user")
        {} other after ∧
      other.SameButLists table ∧ other ≠ table := by
  have hdistinct : (SnapshotTable.ofEmail ["by_email", "by_login"]).DistinctRows :=
    ⟨by decide, by decide⟩
  have horder : (SnapshotTable.ofEmail ["by_email", "by_login"]).Reordered (.ofEmail ["by_login", "by_email"]) :=
    ⟨rfl, .refl _, .swap _ _ _⟩
  have hrows : (Snapshot.empty.insert "user" (.ofEmail ["by_email", "by_login"])).find? "user" =
      some (.ofEmail ["by_email", "by_login"]) := rfl
  have hagain : (Snapshot.empty.insert "user" (.ofEmail ["by_login", "by_email"])).find? "user" =
      some (.ofEmail ["by_login", "by_email"]) := rfl
  obtain ⟨table, other, after, htable, hother, hsame, hequal⟩ :=
    readTable_reordered hrows hagain hdistinct horder false {}
  exact ⟨table, other, after, htable, hother, hsame, fun h => absurd (hequal.mp h) (by decide)⟩

end TableCodegen
