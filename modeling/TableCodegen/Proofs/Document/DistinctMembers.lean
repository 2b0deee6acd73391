import Mathlib.Data.List.Nodup
import TableCodegen.Proofs.Document.PathParameters

/-!
# Distinct members

The types of a route document mix members that stand for columns with members of their own: the page of a
query, the keys of a batch. Members for columns have the names of the columns. Nobody keeps the two apart,
so a column can have the name of a member that its request adds.

Results:

* `nodup_map_requestOf_iff`: the members of a request are distinct just if no column of its list is named as
  a member that is added.
* `members_distinct_iff`: the types of a route document whose members are distinct.

**Deviation.** Distinct columns do not suffice for list and filter requests, which add a page and its size,
nor for batch updates, which add the plural of the key. In all other types they do.
-/

namespace TableCodegen

/-! ## Keys of members -/

/-- The key of a member, behind the kind of place that it is for. -/
def MemberTag.key : MemberTag → String × String
  | response name => ("json", name)
  | path name => ("path", name)
  | request place name _ _ _ => (place.key, name)

@[simp] theorem MemberTag.key_request (place : RequestPlace) (name : String) (presence : Presence)
    (rules : List Rule) (label : Option String) :
    (request place name presence rules label).key = (place.key, name) := rfl

/-- No two members have one name, and no two have one key. -/
structure DistinctMembers (members : List RouteMember) : Prop where
  names : (members.map (·.name)).Nodup
  keys : (members.map (·.tag.key)).Nodup

theorem distinctMembers_nil : DistinctMembers [] := ⟨List.nodup_nil, List.nodup_nil⟩

theorem distinctMembers_singleton (member : RouteMember) : DistinctMembers [member] :=
  ⟨List.nodup_singleton _, List.nodup_singleton _⟩

/-- One list without repetitions can be put behind another if they share nothing. -/
theorem nodup_append_iff_of_nodup {α : Type} {a b : List α} (ha : a.Nodup) (hb : b.Nodup) :
    (a ++ b).Nodup ↔ ∀ x ∈ b, x ∉ a := by
  rw [List.nodup_append, and_iff_right ha, and_iff_right hb]
  constructor
  · intro h x hxb hxa
    exact h x hxa x hxb rfl
  · rintro h x hxa y hyb rfl
    exact h x hyb hxa

/-! ## Members of columns -/

/-- The exported name of a column. -/
def Column.exportedName (config : GenerationConfig) (column : Column) : String :=
  Naming.exportedName config.enableInitialism column.name

section Column

variable (config : GenerationConfig) (mode : Mode) (column : Column)

namespace RouteMember

theorem name_ofColumn : (ofColumn config mode column).name = column.exportedName config :=
  Field.name_toApi config (.ofColumn config column)

theorem key_ofField (field : Field) :
    (ofField mode field).tag.key =
      (if mode = .update ∧ field.primaryKey = true then "path" else if mode = .get then "form" else "json",
        field.rawName) := by
  show (tagOf mode field).key = _
  unfold tagOf
  cases mode <;> cases field.primaryKey <;> rfl

theorem key_ofColumn :
    (ofColumn config mode column).tag.key =
      (if mode = .update ∧ column.primaryKey = true then "path" else if mode = .get then "form" else "json",
        column.name) := by
  unfold ofColumn
  rw [key_ofField, primaryKey_toApi, Field.rawName_toApi]
  rfl

end RouteMember

/-- The keys of a batch have the plural of the key's name. -/
theorem batchMember_ofColumn (tableComment : String) :
    let id := IdInfo.ofField tableComment ((Field.ofColumn config column).toApi config)
    id.batchMember.name = Naming.pluralName (column.exportedName config) ∧
      id.batchMember.tag.key = ("json", Naming.pluralName column.name) := by
  unfold IdInfo.ofField IdInfo.batchMember
  rw [Field.name_toApi, Field.rawName_toApi]
  exact ⟨rfl, rfl⟩

end Column

/-- The columns of a table are told apart by their names, and also by their exported names. -/
structure DistinctColumns (table : Table) (config : GenerationConfig) : Prop where
  raw : (table.columns.map (·.name)).Nodup
  exported : (table.columns.map (·.exportedName config)).Nodup

section Lists

variable {table : Table} {config : GenerationConfig} (hcolumns : DistinctColumns table config)
include hcolumns

/-- The members of a list of columns are distinct. -/
theorem distinctMembers_columnsIn (mode : Mode) :
    DistinctMembers ((table.columnsIn config mode).map (RouteMember.ofColumn config mode)) where
  names := by
    simp only [List.map_map, Function.comp_def, RouteMember.name_ofColumn]
    exact hcolumns.exported.sublist ((columnsIn_sublist table config mode).map _)
  keys := by
    have hraw : ((table.columnsIn config mode).map (·.name)).Nodup :=
      hcolumns.raw.sublist ((columnsIn_sublist table config mode).map _)
    apply List.Nodup.of_map Prod.snd
    simp only [List.map_map, Function.comp_def, RouteMember.key_ofColumn]
    exact hraw

end Lists

/-! ## Members of requests -/

/-- The names of the members that a request adds differ, and so do their keys. -/
theorem Entity.distinctMembers_addedMembers (entity : Entity) (action : RouteAction) :
    DistinctMembers (entity.addedMembers action) := by
  have hpages (place : RequestPlace) : DistinctMembers [pageMember place, pageSizeMember place] := by
    cases place <;> exact ⟨by decide, by decide⟩
  cases action with
  | create | update => exact distinctMembers_nil
  | batchUpdate | batchDelete | delete | get =>
    unfold addedMembers
    cases entity.id with
    | none => exact distinctMembers_nil
    | some id => exact distinctMembers_singleton _
  | list | filter => exact hpages _

/-- A list query has the columns of a filter. -/
theorem columnsIn_get (table : Table) (config : GenerationConfig) :
    table.columnsIn config .get = table.columnsIn config .filter := rfl

section Requests

variable {table : Table} {config : GenerationConfig} (hcolumns : DistinctColumns table config)
  (hplain : config.nullability = .plain) (api : ApiConfig)
include hcolumns hplain

/-- What stands in a request differs just if what stands for its columns is not what it adds. -/
theorem nodup_map_requestOf_iff {α : Type} {f : RouteMember → α}
    (hf : ∀ members, DistinctMembers members → (members.map f).Nodup) {action : RouteAction}
    (haction : action ∈ (buildEntity table config api).actions) :
    (((buildEntity table config api).requestOf action).map f).Nodup ↔
      ∀ mode, action.mode? = some mode → ∀ column ∈ table.columnsIn config mode,
        f (.ofColumn config mode column) ∉ ((buildEntity table config api).addedMembers action).map f := by
  have hadded : (((buildEntity table config api).addedMembers action).map f).Nodup :=
    hf _ (Entity.distinctMembers_addedMembers _ action)
  rw [Entity.requestOf_eq _ haction]
  cases hmode : action.mode? with
  | none =>
    have hnone : (none : Option Mode).toList.flatMap (fun mode => (buildEntity table config api).membersIn mode) =
        [] := rfl
    rw [hnone, List.append_nil]
    refine iff_of_true hadded fun mode h => ?_
    cases h
  | some mode =>
    have hmembers : (some mode).toList.flatMap (fun mode => (buildEntity table config api).membersIn mode) =
        (table.columnsIn config mode).map (RouteMember.ofColumn config mode) := by
      rw [Option.toList_some, List.flatMap_singleton, membersIn_buildEntity hplain]
    have hlisted : (((table.columnsIn config mode).map (RouteMember.ofColumn config mode)).map f).Nodup :=
      hf _ (distinctMembers_columnsIn hcolumns mode)
    rw [hmembers, List.map_append, nodup_append_iff_of_nodup hadded hlisted, List.map_map,
      List.forall_mem_map]
    constructor
    · intro h other hother
      cases hother
      exact h
    · intro h
      exact h mode rfl

/-- A request that adds nothing, or has no columns, has distinct members. -/
theorem distinctMembers_requestOf {action : RouteAction}
    (h : action.mode? = none ∨ (buildEntity table config api).addedMembers action = []) :
    DistinctMembers ((buildEntity table config api).requestOf action) := by
  by_cases haction : action ∈ (buildEntity table config api).actions
  · have happly {α : Type} {f : RouteMember → α}
        (hf : ∀ members, DistinctMembers members → (members.map f).Nodup) :
        (((buildEntity table config api).requestOf action).map f).Nodup := by
      rw [nodup_map_requestOf_iff hcolumns hplain api hf haction]
      intro mode hmode column _
      obtain hnone | hempty := h
      · cases hnone.symm.trans hmode
      · rw [hempty]
        exact List.not_mem_nil
    exact ⟨happly fun _ => DistinctMembers.names, happly fun _ => DistinctMembers.keys⟩
  · rw [Entity.requestOf_of_not_mem _ haction]
    exact distinctMembers_nil

/-- A query has distinct names just if no listed column is exported as a page or its size. -/
theorem nodup_names_query_iff {action : RouteAction} (h : action = .list ∨ action = .filter) :
    (((buildEntity table config api).requestOf action).map (·.name)).Nodup ↔
      ∀ column ∈ table.columnsIn config .filter,
        column.exportedName config ≠ "Page" ∧ column.exportedName config ≠ "PageSize" := by
  have haction : action ∈ (buildEntity table config api).actions := by
    rcases h with rfl | rfl <;> simp [Entity.actions]
  rw [nodup_map_requestOf_iff hcolumns hplain api (fun _ => DistinctMembers.names) haction]
  rcases h with rfl | rfl <;>
    simp [RouteAction.mode?, Entity.addedMembers, pageMember, pageSizeMember, RouteMember.name_ofColumn,
      columnsIn_get]

/-- A query has distinct keys just if no listed column is named as a page or its size. -/
theorem nodup_keys_query_iff {action : RouteAction} (h : action = .list ∨ action = .filter) :
    (((buildEntity table config api).requestOf action).map (·.tag.key)).Nodup ↔
      ∀ column ∈ table.columnsIn config .filter, column.name ≠ "page" ∧ column.name ≠ "page_size" := by
  have haction : action ∈ (buildEntity table config api).actions := by
    rcases h with rfl | rfl <;> simp [Entity.actions]
  rw [nodup_map_requestOf_iff hcolumns hplain api (fun _ => DistinctMembers.keys) haction]
  rcases h with rfl | rfl <;>
    simp [RouteAction.mode?, Entity.addedMembers, pageMember, pageSizeMember, RouteMember.key_ofColumn,
      RequestPlace.key, columnsIn_get]

end Requests

section Batch

variable {table : Table} {config : GenerationConfig} (hcolumns : DistinctColumns table config)
  (hplain : config.nullability = .plain) (api : ApiConfig)
include hcolumns hplain

/-- A batch update has distinct names just if no listed column is exported as the plural of the key. -/
theorem nodup_batchUpdate_iff :
    let members := (buildEntity table config api).requestOf .batchUpdate
    ((members.map (·.name)).Nodup ↔
      ∀ key ∈ (table.keysIn config).head?, ∀ column ∈ table.columnsIn config .batchUpdate,
        column.exportedName config ≠ Naming.pluralName (key.exportedName config)) ∧
    ((members.map (·.tag.key)).Nodup ↔
      ∀ key ∈ (table.keysIn config).head?, ∀ column ∈ table.columnsIn config .batchUpdate,
        column.name ≠ Naming.pluralName key.name) := by
  intro members
  have hid : (buildEntity table config api).id = _ := id_buildEntity_eq table config api
  cases hhead : (table.keysIn config).head? with
  | none =>
    rw [hhead, Option.map_none] at hid
    have hnone : members = [] := by
      show (buildEntity table config api).requestOf .batchUpdate = []
      simp [Entity.requestOf, hid]
    rw [hnone]
    simp
  | some key =>
    rw [hhead, Option.map_some] at hid
    have haction : RouteAction.batchUpdate ∈ (buildEntity table config api).actions := by
      simp [Entity.actions, keyedActions, hid]
    obtain ⟨hname, hkey⟩ := batchMember_ofColumn config key table.comment
    have hnames := nodup_map_requestOf_iff hcolumns hplain api (fun _ => DistinctMembers.names) haction
    have hkeys := nodup_map_requestOf_iff hcolumns hplain api (fun _ => DistinctMembers.keys) haction
    rw [hnames, hkeys]
    simp [RouteAction.mode?, Entity.addedMembers, hid, hname, hkey, RouteMember.name_ofColumn,
      RouteMember.key_ofColumn]

end Batch

/-- Every request is that of an action, and every response has distinct members. -/
theorem Entity.exchange_distinct (entity : Entity) {exchange : Exchange} (h : exchange ∈ entity.exchanges) :
    (∃ action, exchange.request.body.toList = entity.requestOf action) ∧
      DistinctMembers exchange.response.body.toList := by
  have hrows : DistinctMembers [totalMember, listMember entity.modelName] := by
    constructor <;> simp [totalMember, listMember, MemberTag.key]
  cases hid : entity.id with
  | none =>
    simp only [exchanges, hid, Option.toList_none, List.flatMap_nil, List.map_nil, List.append_nil,
      List.cons_append, List.nil_append, List.mem_cons, List.not_mem_nil, or_false] at h
    rcases h with rfl | rfl | rfl
    exacts [⟨⟨.create, rfl⟩, distinctMembers_nil⟩, ⟨⟨.list, rfl⟩, hrows⟩, ⟨⟨.filter, rfl⟩, hrows⟩]
  | some id =>
    have hupdate : entity.requestOf .update = entity.membersIn .update := by simp [requestOf, hid]
    have hbatch : entity.requestOf .batchUpdate = id.batchMember :: entity.membersIn .batchUpdate := by
      simp [requestOf, hid]
    have hdelete : entity.requestOf .delete = [id.pathMember] := by simp [requestOf, hid]
    have hdrop : entity.requestOf .batchDelete = [id.batchMember] := by simp [requestOf, hid]
    simp only [exchanges, keyedExchanges, hid, Option.toList_some, List.flatMap_singleton, List.map_cons,
      List.map_nil, List.cons_append, List.nil_append, List.mem_cons, List.not_mem_nil, or_false] at h
    rcases h with rfl | rfl | rfl | rfl | rfl | rfl | rfl | rfl
    exacts [⟨⟨.create, rfl⟩, distinctMembers_singleton _⟩, ⟨⟨.update, hupdate.symm⟩, distinctMembers_nil⟩,
      ⟨⟨.batchUpdate, hbatch.symm⟩, distinctMembers_nil⟩, ⟨⟨.delete, hdelete.symm⟩, distinctMembers_nil⟩,
      ⟨⟨.batchDelete, hdrop.symm⟩, distinctMembers_nil⟩, ⟨⟨.delete, hdelete.symm⟩, distinctMembers_singleton _⟩,
      ⟨⟨.list, rfl⟩, hrows⟩, ⟨⟨.filter, rfl⟩, hrows⟩]

/-! ## Main result -/

/-- **Distinct members.** Let the columns of a table differ in their names and in their exported names. Then
    the members of every type of its route document differ in their names and in their keys, except that a
    query adds a page and its size, and a batch update the plural of the key; these two kinds of requests have
    distinct names and keys just if no listed column is named so. -/
theorem members_distinct_iff (table : Table) (api : ApiConfig) (db : DbConfig) (structName : String)
    (hcolumns : DistinctColumns table (api.tableConfig db structName)) :
    let config := api.tableConfig db structName
    let entity := buildEntity table config api
    let document := RouteDocument.ofEntity entity api
    let request (action : RouteAction) := document.requestMembers (action.request entity.modelName)
    DistinctMembers document.model.body.toList ∧
    (∀ exchange ∈ document.exchanges, (∃ action, exchange.request.body.toList = request action) ∧
      DistinctMembers exchange.response.body.toList) ∧
    (∀ action ∈ [RouteAction.create, .update, .delete, .batchDelete, .get], DistinctMembers (request action)) ∧
    (∀ action ∈ [RouteAction.list, .filter],
      (((request action).map (·.name)).Nodup ↔ ∀ column ∈ table.columnsIn config .filter,
        column.exportedName config ≠ "Page" ∧ column.exportedName config ≠ "PageSize") ∧
      (((request action).map (·.tag.key)).Nodup ↔ ∀ column ∈ table.columnsIn config .filter,
        column.name ≠ "page" ∧ column.name ≠ "page_size")) ∧
    (((request .batchUpdate).map (·.name)).Nodup ↔
      ∀ key ∈ (table.keysIn config).head?, ∀ column ∈ table.columnsIn config .batchUpdate,
        column.exportedName config ≠ Naming.pluralName (key.exportedName config)) ∧
    (((request .batchUpdate).map (·.tag.key)).Nodup ↔
      ∀ key ∈ (table.keysIn config).head?, ∀ column ∈ table.columnsIn config .batchUpdate,
        column.name ≠ Naming.pluralName key.name) := by
  intro config entity document request
  have hplain : config.nullability = .plain := rfl
  have hrequest (action : RouteAction) : request action = entity.requestOf action :=
    entity.requestMembers_ofEntity api action
  simp only [hrequest]
  refine ⟨?_, ?_, ?_, ?_, nodup_batchUpdate_iff hcolumns hplain api⟩
  · show DistinctMembers (entity.membersIn .model)
    rw [membersIn_buildEntity hplain]
    exact distinctMembers_columnsIn hcolumns .model
  · intro exchange hexchange
    exact entity.exchange_distinct hexchange
  · intro action haction
    apply distinctMembers_requestOf hcolumns hplain api
    simp only [List.mem_cons, List.not_mem_nil, or_false] at haction
    rcases haction with rfl | rfl | rfl | rfl | rfl
    exacts [Or.inr rfl, Or.inr rfl, Or.inl rfl, Or.inl rfl, Or.inl rfl]
  · intro action haction
    have hquery : action = .list ∨ action = .filter := by simpa using haction
    exact ⟨nodup_names_query_iff hcolumns hplain api hquery, nodup_keys_query_iff hcolumns hplain api hquery⟩

/-- A named column without a key or a default. -/
def namedColumn (name : String) : Column where
  name := name
  ordinal := 1
  dataType := "int"
  columnType := "int"
  nullable := false
  default := ""
  length := 0
  precision := 10
  scale := 0
  primaryKey := false
  autoIncrement := false
  unsigned := false
  comment := ""
  indexes := []
  uniqueIndexes := []

/-- A table of groups, each of which holds the keys of others. -/
def groupTable : Table where
  name := "group"
  comment := ""
  columns := [{ namedColumn "id" with primaryKey := true }, namedColumn "ids"]
  indexes := ⟨[], []⟩

/-- The columns of the table differ, and its queries do; but the batch update has the plural of the key
    twice. -/
theorem group_batch_names_twice :
    let config := ApiConfig.tableConfig {} {} ""
    let entity := buildEntity groupTable config {}
    let request (action : RouteAction) :=
      (RouteDocument.ofEntity entity {}).requestMembers (action.request entity.modelName)
    DistinctColumns groupTable config ∧ ((request .list).map (·.name)).Nodup ∧
      ¬ ((request .batchUpdate).map (·.name)).Nodup ∧
      ¬ ((request .batchUpdate).map (·.tag.key)).Nodup := by
  intro config entity request
  have hcolumns : DistinctColumns groupTable config := ⟨by decide +kernel, by decide +kernel⟩
  obtain ⟨-, -, -, hqueries, hnames, hkeys⟩ := members_distinct_iff groupTable {} {} "" hcolumns
  have hlisted : namedColumn "ids" ∈ groupTable.columnsIn config .batchUpdate := by decide +kernel
  have hhead : { namedColumn "id" with primaryKey := true } ∈ (groupTable.keysIn config).head? := by
    decide +kernel
  refine ⟨hcolumns, (hqueries .list (by decide)).1.mpr (by decide +kernel), fun h => ?_, fun h => ?_⟩
  · exact hnames.mp h _ hhead _ hlisted (by decide +kernel)
  · exact hkeys.mp h _ hhead _ hlisted (by decide +kernel)

/-- A table of visited pages. -/
def pageTable : Table where
  name := "visit"
  comment := ""
  columns := [namedColumn "page"]
  indexes := ⟨[], []⟩

/-- A column that is named as a page is in the requests of queries twice. -/
theorem page_listed_twice :
    let config := ApiConfig.tableConfig {} {} ""
    let entity := buildEntity pageTable config {}
    let request (action : RouteAction) :=
      (RouteDocument.ofEntity entity {}).requestMembers (action.request entity.modelName)
    DistinctColumns pageTable config ∧
      (request .list).map (·.name) = ["Page", "PageSize", "Page"] ∧
      (request .list).map (·.tag.key) = [("form", "page"), ("form", "page_size"), ("form", "page")] ∧
      ¬ DistinctMembers (request .list) ∧ ¬ DistinctMembers (request .filter) := by
  intro config entity request
  have hnames : (request .list).map (·.name) = ["Page", "PageSize", "Page"] := by decide +kernel
  have hkeys : (request .list).map (·.tag.key) =
      [("form", "page"), ("form", "page_size"), ("form", "page")] := by
    decide +kernel
  have hfilter : (request .filter).map (·.name) = ["Page", "PageSize", "Page"] := by decide +kernel
  have htwice : ¬ ["Page", "PageSize", "Page"].Nodup := by decide
  refine ⟨⟨by decide +kernel, by decide +kernel⟩, hnames, hkeys, fun h => htwice ?_, fun h => htwice ?_⟩
  · exact hnames ▸ h.names
  · exact hfilter ▸ h.names

end TableCodegen
