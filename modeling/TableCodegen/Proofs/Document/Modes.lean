import Mathlib.Data.List.Forall2
import TableCodegen.Proofs.Catalog.IndexOrder
import TableCodegen.Proofs.Document.Request
import TableCodegen.Proofs.Field.View

/-!
# Member lists of route documents

A route document lists the columns of its table six times, once for each mode. Which columns a list has,
which of them are pointers and how they are tagged is decided for each mode on its own. Here the lists are
compared with each other and with the columns of the table.

Results:

* `fieldsIn_buildEntity`, `membersIn_buildEntity`: the columns of each list.
* `RouteMember.ofField_update`, `RouteMember.sameButPlace_ofField`: the members of one field in different modes.
* `pairwise_ordinal_ofRows`: the columns of a table that was read stand in ordinal order.
* `mode_lists_agree`: how the lists of a document agree.
-/

namespace TableCodegen

/-! ## The columns of a mode -/

namespace Column

/-- The column holds a time that the database keeps: its name says so, it has the current time as its
    default, and its data type is a temporal one. -/
def isAutoTime (column : Column) : Bool :=
  endsWith column.name autoTimeSuffix && column.default == currentTimestamp &&
    TypeFamily.ofKeyword? (normalKeyword column.dataType) == some .temporal

/-- The column is listed in a mode: the key in the model and in single updates, a time that the database
    keeps in no list of values to be stored. -/
def isListedIn (column : Column) : Mode → Bool
  | .model => true
  | .create | .batchUpdate => !column.primaryKey && !column.isAutoTime
  | .update => !column.isAutoTime
  | .get | .filter => !column.primaryKey

end Column

/-- The columns that settings keep and that are listed in a mode. -/
def Table.columnsIn (table : Table) (config : GenerationConfig) (mode : Mode) : List Column :=
  table.columns.filter fun column => !config.isIgnored column.name && column.isListedIn mode

/-- The member of a column in a mode. -/
def RouteMember.ofColumn (config : GenerationConfig) (mode : Mode) (column : Column) : RouteMember :=
  .ofField mode ((Field.ofColumn config column).toApi config)

theorem mem_columnsIn {table : Table} {config : GenerationConfig} {mode : Mode} {column : Column} :
    column ∈ table.columnsIn config mode ↔
      column ∈ table.columns ∧ config.isIgnored column.name = false ∧
        column.isListedIn mode = true := by
  simp [Table.columnsIn]

theorem columnsIn_sublist (table : Table) (config : GenerationConfig) (mode : Mode) :
    (table.columnsIn config mode).Sublist table.columns :=
  List.filter_sublist

/-- Rows are put in ordinal order when they are read. -/
theorem pairwise_ordinal_ofRows (enableInitialism : Bool) (name comment : String)
    (indexRows : List IndexRow) (columnRows : List ColumnRow) :
    (Table.ofRows enableInitialism name comment indexRows columnRows).columns.Pairwise
      fun a b => a.ordinal ≤ b.ordinal := by
  rw [Table.ofRows, List.pairwise_map]
  exact pairwise_mergeSort_key ColumnRow.ordinal columnRows

/-! ## The members of a field in two modes -/

namespace RouteMember

/-- A single update takes a field as the creation of a row does, unless it is the key. -/
theorem ofField_update {field : Field} (hkey : field.primaryKey = false) :
    ofField .update field = ofField .create field := by
  simp [ofField, Field.typeIn, Field.isPromoted, tagOf, Mode.isWrite, hkey]

/-- Two members of requests that differ at most in the place where they travel. -/
structure SameButPlace (place place' : RequestPlace) (member member' : RouteMember) : Prop where
  name : member.name = member'.name
  type : member.type = member'.type
  comment : member.comment = member'.comment
  tag : ∃ key presence rules label, member.tag = .request place key presence rules label ∧
    member'.tag = .request place' key presence rules label

/-- A list query takes a field as a filter does, but as a parameter. -/
theorem sameButPlace_ofField (field : Field) :
    SameButPlace .query .body (ofField .get field) (ofField .filter field) where
  name := rfl
  type := rfl
  comment := rfl
  tag := ⟨_, _, _, _, rfl, rfl⟩

end RouteMember

/-- The member stands in the path. -/
def MemberTag.isPath : MemberTag → Bool
  | path _ => true
  | response _ | request .. => false

/-- In a single update the key stands in the path, and nothing else does. -/
theorem isPath_tagOf_update (field : Field) :
    (RouteMember.tagOf .update field).isPath = field.primaryKey := by
  cases hkey : field.primaryKey <;> simp [RouteMember.tagOf, MemberTag.isPath, hkey]

/-! ## The lists of an entity -/

theorem primaryKey_toApi (config : GenerationConfig) (column : Column) :
    ((Field.ofColumn config column).toApi config).primaryKey = column.primaryKey := by
  rw [Field.toApi_eq]
  rfl

section Lists

variable {config : GenerationConfig} (hplain : config.nullability = .plain)
include hplain

/-- The fields that keep times for themselves are those of the columns that do. -/
theorem isAutoTime_toApi (column : Column) :
    ((Field.ofColumn config column).toApi config).isAutoTime = column.isAutoTime := by
  have htime : ((Field.ofColumn config column).toApi config).isTimeField =
      (TypeFamily.ofKeyword? (normalKeyword column.dataType) == some .temporal) := by
    rw [Bool.eq_iff_iff, beq_iff_eq, Field.isTimeField_toApi, Field.isTimeField_ofColumn hplain,
      ← Field.isTemporal_ofColumn hplain, Field.IsTemporal]
    show _ ↔ TypeFamily.ofKeyword? (normalKeyword column.dataType) = _
    rw [← normalKeyword_asciiLower column.dataType]
    rfl
  rw [Field.isAutoTime, htime, Field.toApi_eq]
  rfl

theorem appearsIn_toApi (mode : Mode) (column : Column) :
    ((Field.ofColumn config column).toApi config).appearsIn mode = column.isListedIn mode := by
  cases mode <;>
    simp only [Field.appearsIn, Column.isListedIn, isAutoTime_toApi hplain, primaryKey_toApi]

/-- The fields in a mode are those of the columns in the mode, in column order. -/
theorem fieldsIn_buildEntity (table : Table) (api : ApiConfig) (mode : Mode) :
    (buildEntity table config api).fieldsIn mode =
      (table.columnsIn config mode).map fun column =>
        (Field.ofColumn config column).toApi config := by
  rw [Entity.fieldsIn, fields_buildEntity, List.filter_map, List.filter_filter, Table.columnsIn]
  congr 1
  refine List.filter_congr fun column _ => ?_
  rw [Function.comp_apply, appearsIn_toApi hplain, Bool.and_comm]

theorem membersIn_buildEntity (table : Table) (api : ApiConfig) (mode : Mode) :
    (buildEntity table config api).membersIn mode =
      (table.columnsIn config mode).map (RouteMember.ofColumn config mode) := by
  rw [Entity.membersIn, fieldsIn_buildEntity hplain, List.map_map]
  rfl

end Lists

/-- How the member lists of an entity agree. -/
structure Entity.ListsAgree (entity : Entity) : Prop where
  /-- A batch update takes the members that the creation of a row takes. -/
  batch : entity.membersIn .batchUpdate = entity.membersIn .create
  /-- A single update takes them too, and the keys in its path. -/
  update : (entity.membersIn .update).filter (!·.tag.isPath) = entity.membersIn .create
  /-- A list query takes the members of a filter as parameters. -/
  queries : List.Forall₂ (RouteMember.SameButPlace .query .body) (entity.membersIn .get)
    (entity.membersIn .filter)

theorem Entity.listsAgree (entity : Entity) : entity.ListsAgree where
  batch := rfl
  update := by
    have hfields : (entity.fieldsIn .update).filter (!·.primaryKey) = entity.fieldsIn .create :=
      List.filter_filter
    rw [membersIn, membersIn, List.filter_map, ← hfields]
    have hpath : ((!·.tag.isPath) ∘ RouteMember.ofField .update) = fun field => !field.primaryKey :=
      funext fun field => congrArg not (isPath_tagOf_update field)
    rw [hpath]
    refine List.map_congr_left fun field hfield => RouteMember.ofField_update ?_
    simpa using (List.mem_filter.mp hfield).2
  queries := by
    have hfields : entity.fieldsIn .get = entity.fieldsIn .filter := rfl
    rw [membersIn, membersIn, hfields, List.forall₂_map_left_iff, List.forall₂_map_right_iff,
      List.forall₂_same]
    exact fun field _ => RouteMember.sameButPlace_ofField field

/-- What the member lists of an entity have of the columns of its table. -/
structure Entity.ListsColumns (entity : Entity) (table : Table) (config : GenerationConfig) :
    Prop where
  /-- A list has one member for each of its columns. -/
  members : ∀ mode,
    entity.membersIn mode = (table.columnsIn config mode).map (RouteMember.ofColumn config mode)
  /-- The columns of a list stand as they stand in the table. -/
  order : ∀ mode, (table.columnsIn config mode).Sublist table.columns
  /-- The model lists every column that settings keep. -/
  kept : ∀ column ∈ table.columns, config.isIgnored column.name = false →
    column ∈ table.columnsIn config .model
  /-- The members that stand in the path of a single update are those of keys. -/
  path : ∀ column, (RouteMember.ofColumn config .update column).tag.isPath = column.primaryKey
  /-- Nobody stores a time that the database keeps. -/
  stored : ∀ mode, mode.isWrite = true → ∀ column ∈ table.columnsIn config mode,
    column.isAutoTime = false

theorem listsColumns_buildEntity {config : GenerationConfig} (hplain : config.nullability = .plain)
    (table : Table) (api : ApiConfig) : (buildEntity table config api).ListsColumns table config where
  members := membersIn_buildEntity hplain table api
  order := columnsIn_sublist table config
  kept column hcolumn hkept := mem_columnsIn.mpr ⟨hcolumn, hkept, rfl⟩
  path column := (isPath_tagOf_update _).trans (primaryKey_toApi config column)
  stored mode hwrite column hcolumn := by
    obtain ⟨-, -, hlisted⟩ := mem_columnsIn.mp hcolumn
    cases mode with
    | create | batchUpdate => simpa using (Bool.and_eq_true_iff.mp hlisted).2
    | update => simpa [Column.isListedIn] using hlisted
    | model | get | filter => cases hwrite

/-! ## Main result -/

/-- **Agreement of modes.** The model type and the request types of a document have the lists of its
    entity. The lists agree with each other, each has the columns of its mode in the order of the table, and
    in a table that was read this is ordinal order. -/
theorem mode_lists_agree (table : Table) (api : ApiConfig) (db : DbConfig) (structName : String) :
    let config := api.tableConfig db structName
    let entity := buildEntity table config api
    let document := RouteDocument.ofEntity entity api
    document.model.body.toList = entity.membersIn .model ∧
    (∀ action, document.requestMembers (action.request entity.modelName) = entity.requestOf action) ∧
    entity.ListsAgree ∧
    entity.ListsColumns table config ∧
    ∀ enableInitialism name comment indexRows columnRows mode,
      ((Table.ofRows enableInitialism name comment indexRows columnRows).columnsIn config
        mode).Pairwise fun a b => a.ordinal ≤ b.ordinal := by
  intro config entity document
  refine ⟨rfl, entity.requestMembers_ofEntity api, entity.listsAgree,
    listsColumns_buildEntity rfl table api, ?_⟩
  intro enableInitialism name comment indexRows columnRows mode
  exact (pairwise_ordinal_ofRows enableInitialism name comment indexRows columnRows).sublist
    (columnsIn_sublist _ config mode)

end TableCodegen
