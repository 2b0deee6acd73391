import TableCodegen.Document.Gist
import TableCodegen.Document.Render
import TableCodegen.Proofs.Document.Packages

/-!
# Index lists in documents

A column has lists of the indexes that it takes part in. Three dialects write these lists into the tag of the column,
and nothing else does: route documents and gists never look at a tag, and a model document without its tags is the
same whatever the lists are.

Results:

* `tagOf_bare`: the tags of the dialects that do not list indexes.
* `ModelDocument.untagged_ofTable_bare`, `ModelDocument.ofTable_bare`: model documents.
* `renderRoutes_bare`, `renderGists_bare`: route documents and gists.
-/

namespace TableCodegen

/-! ## Specification -/

/-- The dialect writes the indexes of a column into its tag. -/
def TagDialect.listsIndexes : TagDialect → Bool
  | gorm | xorm | gormV2 => true
  | json | xml | beego | gorose => false

/-- The column without the lists of its indexes. -/
def Column.bare (column : Column) : Column :=
  { column with indexes := [], uniqueIndexes := [] }

/-- The table without the lists of its columns. -/
def Table.bare (table : Table) : Table :=
  { table with columns := table.columns.map Column.bare }

/-- The document without the tags of its members. -/
def ModelDocument.untagged (document : ModelDocument) : ModelDocument :=
  { document with members := document.members.map fun member => { member with tag := "" } }

/-! ## Tags -/

variable {config : GenerationConfig}

theorem tagOf_bare {dialect : TagDialect} (h : dialect.listsIndexes = false) (column : Column) :
    tagOf dialect column.bare = tagOf dialect column := by
  cases dialect with
  | json | xml | gorose | beego => rfl
  | gorm | xorm | gormV2 => cases h

theorem combinedTag_bare (h : ∀ dialect ∈ enabledDialects config, dialect.listsIndexes = false) (column : Column) :
    combinedTag config column.bare = combinedTag config column := by
  have htexts : ((enabledDialects config).map fun dialect => (tagOf dialect column.bare).toText) =
      (enabledDialects config).map fun dialect => (tagOf dialect column).toText :=
    List.map_congr_left fun dialect hdialect => by rw [tagOf_bare (h dialect hdialect)]
  rw [combinedTag, htexts, combinedTag]

/-! ## Fields -/

/-- The field without its tag. -/
def Field.untagged (field : Field) : Field :=
  { field with tag := "" }

namespace Field

theorem untagged_ofColumn_bare (config : GenerationConfig) (column : Column) :
    (ofColumn config column.bare).untagged = (ofColumn config column).untagged :=
  rfl

theorem eq_of_untagged {field other : Field} (huntagged : field.untagged = other.untagged)
    (htag : field.tag = other.tag) : field = other :=
  calc field
      = { field.untagged with tag := field.tag } := rfl
    _ = { other.untagged with tag := other.tag } := by rw [huntagged, htag]
    _ = other := rfl

theorem ofColumn_bare (h : ∀ dialect ∈ enabledDialects config, dialect.listsIndexes = false) (column : Column) :
    ofColumn config column.bare = ofColumn config column :=
  eq_of_untagged (untagged_ofColumn_bare config column) (combinedTag_bare h column)

theorem toApi_untagged (field : Field) : (field.toApi config).untagged = field.untagged.toApi config := by
  simp only [toApi, apply_ite untagged]
  rfl

end Field

section

variable (columns : List Column)

theorem buildFields_map_bare : buildFields config (columns.map Column.bare) =
    (columns.filter fun column => !config.isIgnored column.name).map fun column =>
      Field.ofColumn config column.bare := by
  rw [buildFields, List.filter_map, List.map_map]
  rfl

theorem map_untagged_buildFields_bare :
    (buildFields config (columns.map Column.bare)).map Field.untagged =
      (buildFields config columns).map Field.untagged := by
  rw [buildFields_map_bare, buildFields, List.map_map, List.map_map]
  rfl

theorem buildFields_bare (h : ∀ dialect ∈ enabledDialects config, dialect.listsIndexes = false) :
    buildFields config (columns.map Column.bare) = buildFields config columns := by
  rw [buildFields_map_bare, buildFields]
  exact List.map_congr_left fun column _ => Field.ofColumn_bare h column

theorem map_untagged_apiFields_bare :
    (apiFields config (columns.map Column.bare)).map Field.untagged =
      (apiFields config columns).map Field.untagged := by
  have hview (fields : List Field) :
      (fields.map (Field.toApi config)).map Field.untagged = (fields.map Field.untagged).map (Field.toApi config) := by
    rw [List.map_map, List.map_map]
    exact List.map_congr_left fun field _ => field.toApi_untagged
  rw [apiFields, apiFields, hview, hview, map_untagged_buildFields_bare]

theorem map_untagged_storageFields_bare :
    (storageFields (buildFields config (columns.map Column.bare))).map Field.untagged =
      (storageFields (buildFields config columns)).map Field.untagged := by
  have hview (fields : List Field) :
      (storageFields fields).map Field.untagged = storageFields (fields.map Field.untagged) := by
    rw [storageFields, storageFields, List.map_map, List.map_map]
    rfl
  rw [hview, hview, map_untagged_buildFields_bare]

end

/-! ## Route documents and gists -/

/-- The entity without the tags of its fields. -/
def Entity.untagged (entity : Entity) : Entity :=
  { entity with fields := entity.fields.map Field.untagged }

section

variable (entity : Entity) (storage : List Field)

theorem fieldsIn_untagged (mode : Mode) :
    entity.untagged.fieldsIn mode = (entity.fieldsIn mode).map Field.untagged := by
  rw [Entity.fieldsIn, Entity.untagged, List.filter_map]
  rfl

theorem membersIn_untagged (mode : Mode) : entity.untagged.membersIn mode = entity.membersIn mode := by
  rw [Entity.membersIn, fieldsIn_untagged, List.map_map]
  rfl

theorem keyedExchanges_untagged : entity.untagged.keyedExchanges = entity.keyedExchanges := by
  funext id
  simp only [Entity.keyedExchanges, membersIn_untagged]
  rfl

theorem ofEntity_untagged (api : ApiConfig) :
    RouteDocument.ofEntity entity.untagged api = RouteDocument.ofEntity entity api := by
  simp only [RouteDocument.ofEntity, Entity.exchanges, Entity.pageExchange, membersIn_untagged,
    keyedExchanges_untagged]
  rfl

theorem renderRoutes_untagged (api : ApiConfig) (validator : RouteValidator) (formatter : SourceFormatter) :
    renderRoutes entity.untagged api validator formatter = renderRoutes entity api validator formatter := by
  rw [renderRoutes, renderRoutes, ofEntity_untagged]
  rfl

theorem convertMembers_untagged :
    entity.untagged.convertMembers (storage.map Field.untagged) = entity.convertMembers storage := by
  rw [Entity.convertMembers, Entity.untagged, List.zipWith_map]
  rfl

theorem gistText_untagged (kind : GistKind) :
    entity.untagged.gistText (storage.map Field.untagged) kind = entity.gistText storage kind := by
  cases kind with
  | convertApi | convertRpc =>
    simp only [Entity.gistText, Entity.conversion, convertMembers_untagged]
    rfl
  | updateMap =>
    simp only [Entity.gistText, UpdateFragment.ofEntity, fieldsIn_untagged, List.filter_map, List.map_map]
    rfl
  | filter =>
    simp only [Entity.gistText, FilterFunction.ofEntity, fieldsIn_untagged, List.map_map]
    rfl

theorem renderGists_untagged (formatter : SourceFormatter) :
    renderGists entity.untagged (storage.map Field.untagged) formatter = renderGists entity storage formatter := by
  have hgist (kind : GistKind) : entity.untagged.renderGist (storage.map Field.untagged) formatter kind =
      entity.renderGist storage formatter kind := by
    rw [Entity.renderGist, Entity.renderGist, gistText_untagged]
    rfl
  have hfields : entity.untagged.fields.length = entity.fields.length := List.length_map _
  simp only [renderGists, hgist, hfields, List.length_map]
  rfl

end

section

variable (table : Table) (api : ApiConfig)

/-- The entity of a table has no use for the index lists of its columns but in tags. -/
theorem untagged_buildEntity_bare :
    (buildEntity table.bare config api).untagged = (buildEntity table config api).untagged := by
  have hid (fields : List Field) : (fields.find? (·.primaryKey)).map (IdInfo.ofField table.comment) =
      ((fields.map Field.untagged).find? (·.primaryKey)).map (IdInfo.ofField table.comment) := by
    rw [List.find?_map, Option.map_map]
    rfl
  simp only [Entity.untagged, buildEntity, Table.bare]
  rw [hid (apiFields config (table.columns.map Column.bare)), map_untagged_apiFields_bare, ← hid]

theorem renderRoutes_bare (validator : RouteValidator) (formatter : SourceFormatter) :
    renderRoutes (buildEntity table.bare config api) api validator formatter =
      renderRoutes (buildEntity table config api) api validator formatter := by
  rw [← renderRoutes_untagged, untagged_buildEntity_bare, renderRoutes_untagged]

theorem renderGists_bare (formatter : SourceFormatter) :
    renderGists (buildEntity table.bare config api) (storageFields (buildFields config table.bare.columns)) formatter =
      renderGists (buildEntity table config api) (storageFields (buildFields config table.columns)) formatter := by
  have hstorage : (storageFields (buildFields config table.bare.columns)).map Field.untagged =
      (storageFields (buildFields config table.columns)).map Field.untagged :=
    map_untagged_storageFields_bare table.columns
  rw [← renderGists_untagged, untagged_buildEntity_bare, hstorage, renderGists_untagged]

end

/-! ## Model documents -/

namespace ModelDocument

variable (table : Table) (structName : String) (view : ModelView)

theorem map_untagged_fields_bare (columns : List Column) :
    (view.fields config (columns.map Column.bare)).map Field.untagged =
      (view.fields config columns).map Field.untagged := by
  cases view with
  | model => exact map_untagged_buildFields_bare columns
  | storage => exact map_untagged_storageFields_bare columns

theorem fields_bare (h : ∀ dialect ∈ enabledDialects config, dialect.listsIndexes = false) (columns : List Column) :
    view.fields config (columns.map Column.bare) = view.fields config columns := by
  cases view with
  | model => exact buildFields_bare columns h
  | storage => exact congrArg storageFields (buildFields_bare columns h)

/-- A document without its tags has what the fields have without theirs. -/
theorem untagged_ofTable (fields : List Field) :
    (ofTable table structName fields config).untagged =
      ofTable table structName (fields.map Field.untagged) config := by
  have himports : packagesOf fields = packagesOf (fields.map Field.untagged) := by
    rw [packagesOf, packagesOf, List.filterMap_map]
    rfl
  simp only [untagged, ofTable, himports, List.map_map]
  rfl

theorem untagged_ofTable_bare :
    (ofTable table.bare structName (view.fields config table.bare.columns) config).untagged =
      (ofTable table structName (view.fields config table.columns) config).untagged := by
  rw [untagged_ofTable, untagged_ofTable, Table.bare, map_untagged_fields_bare]
  rfl

theorem ofTable_bare (h : ∀ dialect ∈ enabledDialects config, dialect.listsIndexes = false) :
    ofTable table.bare structName (view.fields config table.bare.columns) config =
      ofTable table structName (view.fields config table.columns) config := by
  rw [Table.bare, fields_bare view h]
  rfl

end ModelDocument

end TableCodegen
