import TableCodegen.Document.Model
import TableCodegen.Proofs.Catalog.Grouping
import TableCodegen.Proofs.Field.View

/-!
# Index groupings of models

A model document can have methods that list the fields of its indexes. The structure of the document has the
columns that settings keep; the methods list what the catalog says about the indexes of the table. Here it is
said when the two agree.

Results:

* `ModelDocument.mem_groupingMethodsOf_iff`: the methods of a document.
* `ModelDocument.listsName_iff`: the names that the methods of a table's document list.
* `ModelDocument.mem_memberNames_iff`: the names of its members.
* `listed_names_are_members_iff`: when all listed names are names of members.

**Deviation.** A column that settings leave out is no member of the structure, but the methods still list it.
-/

namespace TableCodegen

namespace ModelDocument

/-- A method of the document lists a field with the name. -/
def ListsName (document : ModelDocument) (name : String) : Prop :=
  ∃ method ∈ document.groupingMethods, ListedIn method.groupings name

/-- The names of the members of the structure. -/
def memberNames (document : ModelDocument) : List String :=
  document.members.map (·.name)

/-- Only one dialect has methods, and only those that have something to list. -/
theorem mem_groupingMethodsOf_iff {config : GenerationConfig} {indexes : TableIndexes}
    {method : GroupingMethod} :
    method ∈ groupingMethodsOf config indexes ↔
      config.enableBeegoTag = true ∧ method.groupings ≠ [] ∧
        (method = ⟨"TableIndex", "多字段索引", indexes.normal⟩ ∨
          method = ⟨"TableUnique", "多字段唯一键", indexes.unique⟩) := by
  unfold groupingMethodsOf
  cases config.enableBeegoTag with
  | false => simp
  | true => simp [and_comm]

/-- The methods of a document list what the groupings of the table list. -/
theorem exists_method_iff {config : GenerationConfig} {indexes : TableIndexes} {name : String} :
    (∃ method ∈ groupingMethodsOf config indexes, ListedIn method.groupings name) ↔
      config.enableBeegoTag = true ∧ (ListedIn indexes.normal name ∨ ListedIn indexes.unique name) := by
  simp only [mem_groupingMethodsOf_iff]
  constructor
  · rintro ⟨method, ⟨hbeego, -, rfl | rfl⟩, hlisted⟩
    · exact ⟨hbeego, Or.inl hlisted⟩
    · exact ⟨hbeego, Or.inr hlisted⟩
  · rintro ⟨hbeego, ⟨grouping, hmem, hlisted⟩ | ⟨grouping, hmem, hlisted⟩⟩
    · exact ⟨_, ⟨hbeego, List.ne_nil_of_mem hmem, Or.inl rfl⟩, grouping, hmem, hlisted⟩
    · exact ⟨_, ⟨hbeego, List.ne_nil_of_mem hmem, Or.inr rfl⟩, grouping, hmem, hlisted⟩

section Rows

variable {config : GenerationConfig} {tableName comment : String} {indexRows : List IndexRow}
  {columnRows : List ColumnRow}

/-- The document of the table that some rows describe. -/
def ofRows (config : GenerationConfig) (tableName comment : String) (indexRows : List IndexRow)
    (columnRows : List ColumnRow) : ModelDocument :=
  let table := Table.ofRows config.enableInitialism tableName comment indexRows columnRows
  ofTable table (TableCodegen.structName config table.name) (buildFields config table.columns) config

/-- The methods list the columns of all rows of secondary indexes. -/
theorem listsName_iff {name : String} :
    (ofRows config tableName comment indexRows columnRows).ListsName name ↔
      config.enableBeegoTag = true ∧ ∃ row ∈ indexRows, row.isSecondary = true ∧
        name = Naming.exportedName config.enableInitialism row.columnName := by
  show (∃ method ∈ groupingMethodsOf config (TableIndexes.ofRows config.enableInitialism indexRows),
    ListedIn method.groupings name) ↔ _
  rw [exists_method_iff, TableIndexes.listedIn_ofRows_iff]

/-- The members have the names of the columns that settings keep. -/
theorem mem_memberNames_iff {name : String} :
    name ∈ (ofRows config tableName comment indexRows columnRows).memberNames ↔
      ∃ row ∈ columnRows, config.isIgnored row.name = false ∧
        name = Naming.exportedName config.enableInitialism row.name := by
  have hnames : (ofRows config tableName comment indexRows columnRows).memberNames =
      (((columnRows.mergeSort fun a b => a.ordinal ≤ b.ordinal).map fun row => Column.ofRow row indexRows).filter
        fun column => !config.isIgnored column.name).map fun column =>
          Naming.exportedName config.enableInitialism column.name := by
    unfold memberNames ofRows ofTable
    rw [List.map_map, buildFields, List.map_map]
    rfl
  have hname (row : ColumnRow) : (Column.ofRow row indexRows).name = row.name := rfl
  rw [hnames, List.mem_map]
  constructor
  · rintro ⟨column, hcolumn, rfl⟩
    obtain ⟨hcolumn, hkept⟩ := List.mem_filter.mp hcolumn
    obtain ⟨row, hrow, rfl⟩ := List.mem_map.mp hcolumn
    exact ⟨row, List.mem_mergeSort.mp hrow, by simpa [hname] using hkept, rfl⟩
  · rintro ⟨row, hrow, hkept, rfl⟩
    refine ⟨Column.ofRow row indexRows, List.mem_filter.mpr ⟨?_, by simp [hname, hkept]⟩, rfl⟩
    exact List.mem_map.mpr ⟨row, List.mem_mergeSort.mpr hrow, rfl⟩

end Rows

end ModelDocument

/-! ## Main result -/

/-- **Listed fields.** Let the index rows of a table name columns of it. The groupings of its model document
    can be read, they list exported columns of the table, and those are names of members just if, where the
    dialect has methods, every column of a secondary index shares its exported name with a column that
    settings keep. -/
theorem listed_names_are_members_iff (config : GenerationConfig) (tableName comment : String)
    (indexRows : List IndexRow) (columnRows : List ColumnRow)
    (hrows : ∀ row ∈ indexRows, ∃ column ∈ columnRows, column.name = row.columnName) :
    let document := ModelDocument.ofRows config tableName comment indexRows columnRows
    (∀ method ∈ document.groupingMethods, (method.name = "TableIndex" ∨ method.name = "TableUnique") ∧
      ∀ grouping ∈ method.groupings, (readGrouping grouping).isSome = true) ∧
    (∀ name, document.ListsName name → ∃ column ∈ columnRows,
      name = Naming.exportedName config.enableInitialism column.name) ∧
    ((∀ name, document.ListsName name → name ∈ document.memberNames) ↔
      (config.enableBeegoTag = true → ∀ row ∈ indexRows, row.isSecondary = true →
        ∃ column ∈ columnRows, config.isIgnored column.name = false ∧
          Naming.exportedName config.enableInitialism row.columnName =
            Naming.exportedName config.enableInitialism column.name)) := by
  intro document
  refine ⟨fun method hmethod => ?_, fun name hlisted => ?_, ?_, ?_⟩
  · obtain ⟨-, -, rfl | rfl⟩ := ModelDocument.mem_groupingMethodsOf_iff.mp hmethod
    · exact ⟨Or.inl rfl, fun grouping hgrouping =>
        TableIndexes.isSome_readGrouping_ofRows _ (Or.inl hgrouping)⟩
    · exact ⟨Or.inr rfl, fun grouping hgrouping =>
        TableIndexes.isSome_readGrouping_ofRows _ (Or.inr hgrouping)⟩
  · obtain ⟨-, row, hrow, -, rfl⟩ := ModelDocument.listsName_iff.mp hlisted
    obtain ⟨column, hcolumn, hname⟩ := hrows row hrow
    exact ⟨column, hcolumn, by rw [hname]⟩
  · intro hmembers hbeego row hrow hsecondary
    exact ModelDocument.mem_memberNames_iff.mp
      (hmembers _ (ModelDocument.listsName_iff.mpr ⟨hbeego, row, hrow, hsecondary, rfl⟩))
  · intro hkept name hlisted
    obtain ⟨hbeego, row, hrow, hsecondary, rfl⟩ := ModelDocument.listsName_iff.mp hlisted
    exact ModelDocument.mem_memberNames_iff.mpr (hkept hbeego row hrow hsecondary)

/-- The columns of a table of posts. -/
def postColumns : List ColumnRow :=
  [{ name := "id", ordinal := 1, dataType := "bigint", columnType := "bigint", columnKey := "PRI" },
    { name := "owner_id", ordinal := 2, dataType := "bigint", columnType := "bigint" }]

/-- The posts have an index by owner. -/
def postIndexes : List IndexRow :=
  [{ indexName := "PRIMARY", seqInIndex := 1, columnName := "id" },
    { nonUnique := 1, indexName := "idx_owner", seqInIndex := 1, columnName := "owner_id" }]

/-- The settings that leave the owner out. -/
def ownerlessConfig : GenerationConfig where
  enableBeegoTag := true
  ignoreFields := ["owner_id"]

/-- The method lists the owner, but the structure has no such member. -/
theorem left_out_owner_listed :
    let document := ModelDocument.ofRows ownerlessConfig "post" "" postIndexes postColumns
    (∀ row ∈ postIndexes, ∃ column ∈ postColumns, column.name = row.columnName) ∧
    document.groupingMethods = [⟨"TableIndex", "多字段索引", ["\"OwnerId\""]⟩] ∧
    "OwnerId" ∉ document.memberNames ∧
    ¬ ∀ name, document.ListsName name → name ∈ document.memberNames := by
  intro document
  have hrows : ∀ row ∈ postIndexes, ∃ column ∈ postColumns, column.name = row.columnName := by
    decide +kernel
  obtain ⟨-, -, hiff⟩ := listed_names_are_members_iff ownerlessConfig "post" "" postIndexes postColumns hrows
  have howner : "OwnerId" ∉ document.memberNames := by
    rw [ModelDocument.mem_memberNames_iff]
    decide +kernel
  refine ⟨hrows, by decide +kernel, howner, fun h => ?_⟩
  have hkept : ¬ ∀ row ∈ postIndexes, row.isSecondary = true →
      ∃ column ∈ postColumns, ownerlessConfig.isIgnored column.name = false ∧
        Naming.exportedName ownerlessConfig.enableInitialism row.columnName =
          Naming.exportedName ownerlessConfig.enableInitialism column.name := by
    decide +kernel
  exact hkept (hiff.mp h rfl)

end TableCodegen
