import TableCodegen.Proofs.Document.IndexLists

/-!
# Comment texts in entities and gists

The comment of a column gives its fields a comment and a label, and its index comments go into tags. Apart from these
texts, fields depend on a comment through the values that it lists and nothing else, and gists show none of the texts
at all.

Results:

* `Field.uncommented_ofColumn`: two columns with the same listed values.
* `uncommented_buildEntity`, `map_uncommented_storageFields`: the entities and the storage views of two tables.
* `gistText_uncommented`, `renderGists_uncommented`: gists do not show the texts.
* `gists_of_sameComment`: the gists of two tables with the same comment.
-/

namespace TableCodegen

/-! ## Specification -/

/-- The index without its comment. -/
def ColumnIndex.uncommented (index : ColumnIndex) : ColumnIndex :=
  { index with comment := "" }

/-- The column with the values that its comment lists for the comment, and without those of its indexes. -/
def Column.uncommented (column : Column) : Column :=
  { column with
    comment := enumsOf column.comment
    indexes := column.indexes.map ColumnIndex.uncommented
    uniqueIndexes := column.uniqueIndexes.map ColumnIndex.uncommented }

/-- Two tables that differ in nothing but comments, with the same listed values in the comments of each column. -/
structure SameButComments (table other : Table) : Prop where
  name : table.name = other.name
  indexes : table.indexes = other.indexes
  columns : table.columns.map Column.uncommented = other.columns.map Column.uncommented

instance (table other : Table) : Decidable (SameButComments table other) :=
  decidable_of_iff (table.name = other.name ∧ table.indexes = other.indexes ∧
      table.columns.map Column.uncommented = other.columns.map Column.uncommented)
    ⟨fun ⟨hname, hindexes, hcolumns⟩ => ⟨hname, hindexes, hcolumns⟩, fun h => ⟨h.name, h.indexes, h.columns⟩⟩

/-! ## Fields -/

/-- The field without the texts of comments. -/
def Field.uncommented (field : Field) : Field :=
  { field with label := "", comment := "", tag := "" }

variable {config : GenerationConfig}

/-- Of the comment only the listed values decide on a truth value. -/
theorem isBoolColumn_eq_of_enums {column other : Column} (htype : column.columnType = other.columnType)
    (henums : enumsOf column.comment = enumsOf other.comment) : column.isBoolColumn = other.isBoolColumn := by
  have hvalues : (Remark.ofComment column.comment).enums = (Remark.ofComment other.comment).enums := henums
  simp only [Column.isBoolColumn, Remark.hasEnums, Remark.isBoolEnum, htype, hvalues]

namespace Field

theorem uncommented_ofColumn (config : GenerationConfig) {column other : Column}
    (h : column.uncommented = other.uncommented) :
    (ofColumn config column).uncommented = (ofColumn config other).uncommented := by
  have hvalues : (Remark.ofComment column.comment).enums = (Remark.ofComment other.comment).enums :=
    (congrArg Column.comment h :)
  have htype : column.columnType = other.columnType := (congrArg Column.columnType h :)
  have hbool : column.isBoolColumn = other.isBoolColumn := isBoolColumn_eq_of_enums htype hvalues
  have hname : column.name = other.name := (congrArg Column.name h :)
  have hdata : column.dataType = other.dataType := (congrArg Column.dataType h :)
  have hnull : column.nullable = other.nullable := (congrArg Column.nullable h :)
  have hsign : column.unsigned = other.unsigned := (congrArg Column.unsigned h :)
  have hdefault : column.default = other.default := (congrArg Column.default h :)
  have hkey : column.primaryKey = other.primaryKey := (congrArg Column.primaryKey h :)
  simp only [ofColumn, uncommented, hbool, hname, hdata, htype, hnull, hsign, hdefault, hkey, hvalues]

theorem toApi_uncommented (field : Field) :
    (field.toApi config).uncommented = field.uncommented.toApi config := by
  simp only [toApi, apply_ite uncommented]
  rfl

end Field

section

variable {columns others : List Column} (h : columns.map Column.uncommented = others.map Column.uncommented)
  (config : GenerationConfig)
include h

theorem map_uncommented_buildFields :
    (buildFields config columns).map Field.uncommented = (buildFields config others).map Field.uncommented := by
  induction columns generalizing others with
  | nil =>
    rw [List.map_nil, eq_comm, List.map_eq_nil_iff] at h
    rw [h]
  | cons column columns ih =>
    rw [List.map_cons, eq_comm, List.map_eq_cons_iff] at h
    obtain ⟨other, others, rfl, hfirst, hrest⟩ := h
    have hname : other.name = column.name := (congrArg Column.name hfirst :)
    have hfields := ih hrest.symm
    simp only [buildFields] at hfields ⊢
    rw [List.filter_cons, List.filter_cons, hname]
    split
    · rw [List.map_cons, List.map_cons, List.map_cons, List.map_cons, hfields,
        Field.uncommented_ofColumn config hfirst]
    · exact hfields

theorem map_uncommented_apiFields :
    (apiFields config columns).map Field.uncommented = (apiFields config others).map Field.uncommented := by
  have hview (fields : List Field) : (fields.map (Field.toApi config)).map Field.uncommented =
      (fields.map Field.uncommented).map (Field.toApi config) := by
    rw [List.map_map, List.map_map]
    exact List.map_congr_left fun field _ => field.toApi_uncommented
  rw [apiFields, apiFields, hview, hview, map_uncommented_buildFields h]

theorem map_uncommented_storageFields :
    (storageFields (buildFields config columns)).map Field.uncommented =
      (storageFields (buildFields config others)).map Field.uncommented := by
  have hview (fields : List Field) : (storageFields fields).map Field.uncommented =
      (storageFields (fields.map Field.uncommented)).map Field.uncommented := by
    rw [storageFields, storageFields, List.map_map, List.map_map, List.map_map]
    rfl
  rw [hview, hview (buildFields config others), map_uncommented_buildFields h]

end

/-! ## Entities -/

/-- The key without the texts of comments. -/
def IdInfo.uncommented (id : IdInfo) : IdInfo :=
  { id with comment := "", label := "" }

/-- The entity without the texts of the comments of its columns. -/
def Entity.uncommented (entity : Entity) : Entity :=
  { entity with
    id := entity.id.map IdInfo.uncommented
    fields := entity.fields.map Field.uncommented }

/-- The entity without the comment of its table. -/
def Entity.untitled (entity : Entity) : Entity :=
  { entity with tableComment := "" }

theorem uncommented_buildEntity {table other : Table} (h : SameButComments table other) (config : GenerationConfig)
    (api : ApiConfig) : (buildEntity table config api).uncommented.untitled =
      (buildEntity other config api).uncommented.untitled := by
  have hid (tableComment : String) (fields : List Field) :
      ((fields.find? (·.primaryKey)).map (IdInfo.ofField tableComment)).map IdInfo.uncommented =
        ((fields.map Field.uncommented).find? (·.primaryKey)).map fun key =>
          (IdInfo.ofField "" key).uncommented := by
    rw [List.find?_map, Option.map_map, Option.map_map]
    rfl
  simp only [Entity.untitled, Entity.uncommented, buildEntity, hid, map_uncommented_apiFields h.columns, h.name]

/-! ## Gists -/

section

variable (entity : Entity) (storage : List Field)

theorem fieldsIn_uncommented (mode : Mode) :
    entity.uncommented.fieldsIn mode = (entity.fieldsIn mode).map Field.uncommented := by
  rw [Entity.fieldsIn, Entity.uncommented, List.filter_map]
  rfl

theorem convertMembers_uncommented :
    entity.uncommented.convertMembers (storage.map Field.uncommented) = entity.convertMembers storage := by
  rw [Entity.convertMembers, Entity.uncommented, List.zipWith_map]
  rfl

/-- Gists do not show the texts of the comments of columns. -/
theorem gistText_uncommented (kind : GistKind) :
    entity.uncommented.gistText (storage.map Field.uncommented) kind = entity.gistText storage kind := by
  cases kind with
  | convertApi | convertRpc =>
    simp only [Entity.gistText, Entity.conversion, convertMembers_uncommented]
    rfl
  | updateMap =>
    simp only [Entity.gistText, UpdateFragment.ofEntity, fieldsIn_uncommented, List.filter_map, List.map_map]
    rfl
  | filter =>
    simp only [Entity.gistText, FilterFunction.ofEntity, fieldsIn_uncommented, List.map_map]
    rfl

theorem renderGists_uncommented (formatter : SourceFormatter) :
    renderGists entity.uncommented (storage.map Field.uncommented) formatter =
      renderGists entity storage formatter := by
  have hgist (kind : GistKind) : entity.uncommented.renderGist (storage.map Field.uncommented) formatter kind =
      entity.renderGist storage formatter kind := by
    rw [Entity.renderGist, Entity.renderGist, gistText_uncommented]
    rfl
  have hfields : entity.uncommented.fields.length = entity.fields.length := List.length_map _
  simp only [renderGists, hgist, hfields, List.length_map]
  rfl

end

/-- Two tables with the same comment have the same gists. -/
theorem gists_of_sameComment {table other : Table} (h : SameButComments table other)
    (hcomment : table.comment = other.comment) (config : GenerationConfig) (api : ApiConfig) :
    (∀ kind, (buildEntity table config api).gistText (storageFields (buildFields config table.columns)) kind =
      (buildEntity other config api).gistText (storageFields (buildFields config other.columns)) kind) ∧
    ∀ formatter,
      renderGists (buildEntity table config api) (storageFields (buildFields config table.columns)) formatter =
        renderGists (buildEntity other config api) (storageFields (buildFields config other.columns)) formatter := by
  have hentity : (buildEntity table config api).uncommented = (buildEntity other config api).uncommented :=
    calc (buildEntity table config api).uncommented
        = { (buildEntity table config api).uncommented.untitled with tableComment := table.comment } := rfl
      _ = { (buildEntity other config api).uncommented.untitled with tableComment := other.comment } := by
        rw [uncommented_buildEntity h, hcomment]
      _ = (buildEntity other config api).uncommented := rfl
  have hstorage := map_uncommented_storageFields h.columns config
  constructor
  · intro kind
    rw [← gistText_uncommented, hentity, hstorage, gistText_uncommented]
  · intro formatter
    rw [← renderGists_uncommented, hentity, hstorage, renderGists_uncommented]

end TableCodegen
