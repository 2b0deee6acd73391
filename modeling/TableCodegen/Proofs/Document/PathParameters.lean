import TableCodegen.Document.Route.Text
import TableCodegen.Proofs.Document.Modes

/-!
# Path parameters

A route that names one row has the key of the row in its path, and its request type has a member that is
tagged with the parameter. The path has the first key of the table. So do the requests that read or delete
a row; but the request that updates a row has a member for every key that can be stored.

Results:

* `readParameters_pathText`: the parameters of a path can be read off its text.
* `pathKeys_membersIn`: the keys that a list of members has in the path.
* `parameters_of_mem_routes`: the parameters of the routes of an entity.
* `path_keys_of_routes`: the path keys of every request against the parameters of its route.

**Deviation.** The update request takes its path keys from the columns of its mode, and not from the key
that the route names. With two keys it expects a parameter that no path has; with a key that keeps a time
for itself it does not take the parameter that the path has.
-/

namespace TableCodegen

/-! ## Parameters in the text of a path -/

namespace Segment

/-- The parameter that a segment stands for. -/
def parameter? : Segment → Option String
  | fixed _ => none
  | parameter name => some name

/-- The text of a segment does not look like other segments. -/
def Plain : Segment → Prop
  | fixed text => ':' ∉ text.toList
  | parameter name => '/' ∉ name.toList

end Segment

/-- The path of a route as it is written. -/
def Route.pathText (route : Route) : String :=
  String.join (route.path.map Segment.toText)

theorem Route.parameters_eq (route : Route) :
    route.parameters = route.path.filterMap Segment.parameter? := by
  rw [parameters]
  refine List.filterMap_congr fun segment _ => ?_
  cases segment <;> rfl

/-- The name behind the colon of a segment. -/
def readParameter? : List Char → Option String
  | ':' :: name => some (String.ofList name)
  | _ => none

/-- The names behind colons in a path. -/
def readParameters (path : List Char) : List String :=
  (path.splitOn '/').filterMap readParameter?

theorem readParameters_append_slash (before after : List Char) :
    readParameters (before ++ '/' :: after) = readParameters before ++ readParameters after := by
  rw [readParameters, List.splitOn_append_cons_self, List.filterMap_append]
  rfl

theorem mem_of_mem_splitOn {sep c : Char} {piece text : List Char} (hpiece : piece ∈ text.splitOn sep)
    (hc : c ∈ piece) : c ∈ text := by
  induction text generalizing piece with
  | nil =>
    rw [List.splitOn_nil, List.mem_singleton] at hpiece
    exact hpiece ▸ hc
  | cons d text ih =>
    rw [List.splitOn_cons_eq_if_modifyHead] at hpiece
    split at hpiece
    · rcases List.mem_cons.mp hpiece with rfl | hpiece
      · cases hc
      · exact List.mem_cons_of_mem d (ih hpiece hc)
    · -- the letter stands in front of the first piece
      obtain ⟨first, rest, hsplit⟩ := List.exists_cons_of_ne_nil (List.splitOn_ne_nil sep text)
      rw [hsplit] at ih hpiece
      rcases List.mem_cons.mp hpiece with rfl | hpiece
      · rcases List.mem_cons.mp hc with rfl | hc
        · exact List.mem_cons_self
        · exact List.mem_cons_of_mem d (ih List.mem_cons_self hc)
      · exact List.mem_cons_of_mem d (ih (List.mem_cons_of_mem first hpiece) hc)

/-- A text without a colon has no parameters. -/
theorem readParameters_of_not_mem {text : List Char} (h : ':' ∉ text) : readParameters text = [] := by
  refine List.filterMap_eq_nil_iff.mpr fun piece hpiece => ?_
  rw [readParameter?]
  rintro name rfl
  exact h (mem_of_mem_splitOn hpiece List.mem_cons_self)

/-- A plain segment is read as what it stands for. -/
theorem Segment.Plain.readParameters_toText {segment : Segment} (h : segment.Plain) :
    ∃ text, segment.toText.toList = '/' :: text ∧ readParameters text = segment.parameter?.toList := by
  cases segment with
  | fixed text =>
    exact ⟨text.toList, by simp [toText], readParameters_of_not_mem h⟩
  | parameter name =>
    refine ⟨':' :: name.toList, by simp [toText], ?_⟩
    have hslash : '/' ∉ ':' :: name.toList := by simpa [Plain] using h
    rw [readParameters, List.splitOn_eq_singleton hslash]
    simp [readParameter?, parameter?]

/-- **Reading a path.** The parameters of a route whose segments are plain are the names that stand behind
    colons in its path. -/
theorem readParameters_pathText {route : Route} (h : ∀ segment ∈ route.path, segment.Plain) :
    readParameters route.pathText.toList = route.parameters := by
  -- induction on the segments, behind any text
  have hrun (segments : List Segment) (hplain : ∀ segment ∈ segments, segment.Plain)
      (before : List Char) :
      readParameters (before ++ (String.join (segments.map Segment.toText)).toList) =
        readParameters before ++ segments.filterMap Segment.parameter? := by
    induction segments generalizing before with
    | nil => simp
    | cons segment segments ih =>
      obtain ⟨hsegment, hplain⟩ := List.forall_mem_cons.mp hplain
      obtain ⟨text, htext, hread⟩ := hsegment.readParameters_toText
      rw [List.map_cons, String.join_cons, String.toList_append, htext, List.cons_append,
        readParameters_append_slash, ih hplain, hread, List.filterMap_cons]
      cases segment.parameter? <;> rfl
  rw [Route.parameters_eq, Route.pathText]
  exact hrun route.path h []

/-! ## Path keys of members -/

/-- The keys that a tag gives its member in the path. -/
def MemberTag.pathKeys (tag : MemberTag) : List String :=
  (tag.toTags.filter (·.key == "path")).map (·.value)

/-- The keys that the members of the request types with a name have in the path. -/
def RouteDocument.pathKeys (document : RouteDocument) (name : String) : List String :=
  (document.requestMembers name).flatMap (·.tag.pathKeys)

namespace MemberTag

@[simp] theorem pathKeys_path (key : String) : (path key).pathKeys = [key] := rfl

@[simp] theorem pathKeys_request (place : RequestPlace) (key : String) (presence : Presence)
    (rules : List Rule) (label : Option String) :
    (request place key presence rules label).pathKeys = [] := by
  cases place <;> cases rules <;> cases label <;> rfl

@[simp] theorem pathKeys_response (key : String) : (response key).pathKeys = [] := rfl

end MemberTag

/-- Only the key of a single update stands in the path. -/
theorem pathKeys_tagOf (mode : Mode) (field : Field) :
    (RouteMember.tagOf mode field).pathKeys =
      if mode = .update && field.primaryKey then [field.rawName] else [] := by
  by_cases hmodel : mode = .model
  · simp [RouteMember.tagOf, hmodel]
  · by_cases hkey : (mode = .update && field.primaryKey) = true <;>
      simp [RouteMember.tagOf, hmodel, hkey]

/-- The keys of the table that settings keep. -/
def Table.keysIn (table : Table) (config : GenerationConfig) : List Column :=
  (table.columns.filter fun column => !config.isIgnored column.name).filter (·.primaryKey)

/-- The keys of the table that a single update can store. -/
def Table.storedKeysIn (table : Table) (config : GenerationConfig) : List Column :=
  (table.keysIn config).filter (!·.isAutoTime)

theorem columnsIn_update_keys (table : Table) (config : GenerationConfig) :
    (table.columnsIn config .update).filter (·.primaryKey) = table.storedKeysIn config := by
  rw [Table.columnsIn, Table.storedKeysIn, Table.keysIn]
  simp only [List.filter_filter]
  refine List.filter_congr fun column _ => ?_
  rw [Column.isListedIn, Bool.and_comm (!config.isIgnored column.name), Bool.and_left_comm]

theorem flatMap_keyNames (columns : List Column) :
    (columns.flatMap fun column => if column.primaryKey then [column.name] else []) =
      (columns.filter (·.primaryKey)).map (·.name) := by
  induction columns with
  | nil => rfl
  | cons column columns ih =>
    cases hkey : column.primaryKey <;> simp [hkey, ih]

section Lists

variable {config : GenerationConfig} (hplain : config.nullability = .plain) (table : Table)
  (api : ApiConfig)
include hplain

/-- The list of single updates has the stored keys in the path, and the other lists have nothing there. -/
theorem pathKeys_membersIn (mode : Mode) :
    ((buildEntity table config api).membersIn mode).flatMap (·.tag.pathKeys) =
      if mode = .update then (table.storedKeysIn config).map (·.name) else [] := by
  have hmember (column : Column) : (RouteMember.ofColumn config mode column).tag.pathKeys =
      if mode = .update && column.primaryKey then [column.name] else [] := by
    rw [RouteMember.ofColumn, RouteMember.ofField, pathKeys_tagOf, primaryKey_toApi, Field.toApi_eq]
    rfl
  rw [membersIn_buildEntity hplain, List.flatMap_map]
  simp only [hmember]
  by_cases hmode : mode = .update
  · simp only [hmode, decide_true, Bool.true_and, if_true]
    rw [flatMap_keyNames, columnsIn_update_keys]
  · simp [hmode]

end Lists

/-- The key of an entity is that of the first key of its table. -/
theorem id_buildEntity_eq (table : Table) (config : GenerationConfig) (api : ApiConfig) :
    (buildEntity table config api).id =
      (table.keysIn config).head?.map fun key =>
        .ofField table.comment ((Field.ofColumn config key).toApi config) := by
  have hfind : (buildEntity table config api).fields.find? (·.primaryKey) =
      (table.keysIn config).head?.map fun key => (Field.ofColumn config key).toApi config := by
    rw [fields_buildEntity, List.find?_map, ← List.head?_filter]
    simp only [Function.comp_def, primaryKey_toApi]
    rfl
  show ((buildEntity table config api).fields.find? (·.primaryKey)).map _ = _
  rw [hfind, Option.map_map]
  rfl

/-- The key that routes name is the first one of the table. -/
theorem id_buildEntity (table : Table) (config : GenerationConfig) (api : ApiConfig) :
    (buildEntity table config api).id.map (·.rawName) =
      (table.keysIn config).head?.map (·.name) := by
  have hname (column : Column) :
      (IdInfo.ofField table.comment ((Field.ofColumn config column).toApi config)).rawName = column.name :=
    Field.rawName_toApi config (.ofColumn config column)
  rw [id_buildEntity_eq, Option.map_map]
  simp only [Function.comp_def, hname]

/-! ## Routes -/

/-- The parameters of a path: the key of the entity, in the routes that name one row. -/
def Entity.parametersOf (entity : Entity) : RouteAction → List String
  | .update | .delete | .get => (entity.id.map (·.rawName)).toList
  | .create | .batchUpdate | .batchDelete | .list | .filter => []

/-- A route of an entity is that of an action, and has the parameters of the action. Only an entity with a
    key has a route that updates a row. -/
theorem parameters_of_mem_routes {entity : Entity} {route : Route} (h : route ∈ entity.routes) :
    ∃ action : RouteAction, route.request = action.request entity.modelName ∧
      route.parameters = entity.parametersOf action ∧ (action = .update → entity.id.isSome = true) := by
  cases hid : entity.id with
  | none =>
    simp only [Entity.routes, hid, Option.toList_none, List.flatMap_nil, List.append_nil,
      List.cons_append, List.nil_append, List.mem_cons, List.not_mem_nil, or_false] at h
    have hother {action : RouteAction} (hne : action ≠ .update) :
        action = .update → (none : Option IdInfo).isSome = true := fun heq => absurd heq hne
    rcases h with rfl | rfl | rfl
    exacts [⟨.create, rfl, rfl, hother (by decide)⟩, ⟨.list, rfl, rfl, hother (by decide)⟩,
      ⟨.filter, rfl, rfl, hother (by decide)⟩]
  | some id =>
    have hone : entity.parametersOf .update = [id.rawName] := by
      rw [Entity.parametersOf, hid]
      rfl
    have hsome (action : RouteAction) : action = .update → (some id).isSome = true := fun _ => rfl
    simp only [Entity.routes, hid, Option.toList_some, List.flatMap_singleton, Entity.keyedRoutes,
      List.cons_append, List.nil_append, List.mem_cons, List.not_mem_nil, or_false] at h
    rcases h with rfl | rfl | rfl | rfl | rfl | rfl | rfl | rfl
    exacts [⟨.create, rfl, rfl, hsome _⟩, ⟨.update, rfl, hone.symm, hsome _⟩,
      ⟨.batchUpdate, rfl, rfl, hsome _⟩, ⟨.delete, rfl, hone.symm, hsome _⟩,
      ⟨.batchDelete, rfl, rfl, hsome _⟩, ⟨.get, rfl, hone.symm, hsome _⟩, ⟨.list, rfl, rfl, hsome _⟩,
      ⟨.filter, rfl, rfl, hsome _⟩]

section Requests

variable {config : GenerationConfig} (hplain : config.nullability = .plain) (table : Table)
  (api : ApiConfig)
include hplain

/-- Every request but that of a single update has the path keys that its action gives a route. -/
theorem pathKeys_requestOf {action : RouteAction} (h : action ≠ .update) :
    ((buildEntity table config api).requestOf action).flatMap (·.tag.pathKeys) =
      (buildEntity table config api).parametersOf action := by
  have hlists := pathKeys_membersIn hplain table api
  cases action with
  | update => exact absurd rfl h
  | create => exact hlists .create
  | list => simpa [Entity.requestOf, Entity.parametersOf, pageMember, pageSizeMember] using hlists .get
  | filter =>
    simpa [Entity.requestOf, Entity.parametersOf, pageMember, pageSizeMember] using hlists .filter
  | batchUpdate =>
    cases hid : (buildEntity table config api).id with
    | none => simp [Entity.requestOf, Entity.parametersOf, hid]
    | some id =>
      simpa [Entity.requestOf, Entity.parametersOf, hid, IdInfo.batchMember] using hlists .batchUpdate
  | delete | get | batchDelete =>
    cases hid : (buildEntity table config api).id <;>
      simp [Entity.requestOf, Entity.parametersOf, hid, IdInfo.pathMember, IdInfo.batchMember]

/-- The request of a single update has all keys of the table that can be stored. -/
theorem pathKeys_requestOf_update (hid : (buildEntity table config api).id.isSome = true) :
    ((buildEntity table config api).requestOf .update).flatMap (·.tag.pathKeys) =
      (table.storedKeysIn config).map (·.name) := by
  rw [Entity.requestOf, if_pos hid]
  exact pathKeys_membersIn hplain table api .update

end Requests

/-! ## Main result -/

/-- **Path parameters.** The path keys of a request are the parameters of its route, except for single
    updates. The route of an update has the first key of the table; its request has the keys that an update
    can store. So the two agree just if there is one such key, and it has the name of the first. -/
theorem path_keys_of_routes (table : Table) (api : ApiConfig) (db : DbConfig) (structName : String) :
    let config := api.tableConfig db structName
    let entity := buildEntity table config api
    let document := RouteDocument.ofEntity entity api
    ∀ route ∈ document.routes,
      ((∀ segment ∈ route.path, segment.Plain) →
        readParameters route.pathText.toList = route.parameters) ∧
      (route.request ≠ RouteAction.update.request entity.modelName →
        document.pathKeys route.request = route.parameters) ∧
      (route.request = RouteAction.update.request entity.modelName →
        ∃ key, (table.keysIn config).head? = some key ∧ route.parameters = [key.name] ∧
          document.pathKeys route.request = (table.storedKeysIn config).map (·.name) ∧
          (document.pathKeys route.request = route.parameters ↔
            ∃ column, table.storedKeysIn config = [column] ∧ column.name = key.name)) := by
  intro config entity document route hroute
  obtain ⟨action, hrequest, hparameters, hsome⟩ := parameters_of_mem_routes hroute
  have hkeys : document.pathKeys route.request =
      (entity.requestOf action).flatMap (·.tag.pathKeys) := by
    rw [hrequest, RouteDocument.pathKeys, entity.requestMembers_ofEntity api]
  rw [hkeys, hparameters]
  refine ⟨fun hplain => hparameters ▸ readParameters_pathText hplain, fun hne => ?_, fun heq => ?_⟩
  · refine pathKeys_requestOf rfl table api ?_
    rintro rfl
    exact hne hrequest
  · obtain rfl : action = .update := RouteAction.request_inj.mp (hrequest.symm.trans heq)
    have hid : entity.id.map (·.rawName) = (table.keysIn config).head?.map (·.name) :=
      id_buildEntity table config api
    obtain ⟨id, hidentity⟩ := Option.isSome_iff_exists.mp (hsome rfl)
    obtain ⟨key, hkey, hname⟩ : ∃ key, (table.keysIn config).head? = some key ∧
        key.name = id.rawName := by
      rw [hidentity, Option.map_some, eq_comm, Option.map_eq_some_iff] at hid
      exact hid
    have hone : entity.parametersOf .update = [key.name] := by
      rw [Entity.parametersOf, hidentity, hname]
      rfl
    have hstored : (entity.requestOf .update).flatMap (·.tag.pathKeys) =
        (table.storedKeysIn config).map (·.name) :=
      pathKeys_requestOf_update rfl table api (hsome rfl)
    refine ⟨key, hkey, hone, hstored, ?_⟩
    rw [hstored, hone, List.map_eq_singleton_iff]

/-- The tenant of a seat, one part of its key. -/
def tenantColumn : Column where
  name := "tenant_id"
  ordinal := 1
  dataType := "bigint"
  columnType := "bigint"
  nullable := false
  default := ""
  length := 0
  precision := 19
  scale := 0
  primaryKey := true
  autoIncrement := false
  unsigned := false
  comment := ""
  indexes := []
  uniqueIndexes := []

/-- The time of a sample, its only key. -/
def takenColumn : Column :=
  { tenantColumn with
    name := "taken_at", dataType := "datetime", columnType := "datetime", default := currentTimestamp }

/-- A table whose key has two parts. -/
def seatTable : Table where
  name := "seat"
  comment := ""
  columns := [tenantColumn, { tenantColumn with name := "seat_id", ordinal := 2 }]
  indexes := ⟨[], []⟩

/-- A table whose key is a time that the database keeps. -/
def sampleTable : Table where
  name := "sample"
  comment := ""
  columns := [takenColumn]
  indexes := ⟨[], []⟩

/-- The update of a seat needs a second parameter that its path does not have, and the update of a sample
    does not take the parameter of its path. -/
theorem update_request_misses_path :
    let config := ApiConfig.tableConfig {} {} ""
    let seat := buildEntity seatTable config {}
    let sample := buildEntity sampleTable config {}
    (∃ route ∈ (RouteDocument.ofEntity seat {}).routes, route.pathText = "/seat/:tenant_id" ∧
      route.parameters = ["tenant_id"] ∧
      (RouteDocument.ofEntity seat {}).pathKeys route.request = ["tenant_id", "seat_id"]) ∧
    ∃ route ∈ (RouteDocument.ofEntity sample {}).routes, route.pathText = "/sample/:taken_at" ∧
      route.parameters = ["taken_at"] ∧
      (RouteDocument.ofEntity sample {}).pathKeys route.request = [] := by
  intro config seat sample
  refine ⟨⟨seat.route .update .put [.fixed "seat", .parameter "tenant_id"], by decide +kernel,
    by decide +kernel, ?_⟩, ⟨sample.route .update .put [.fixed "sample", .parameter "taken_at"],
    by decide +kernel, by decide +kernel, ?_⟩⟩
  · obtain ⟨-, -, hupdate⟩ := path_keys_of_routes seatTable {} {} ""
      (seat.route .update .put [.fixed "seat", .parameter "tenant_id"]) (by decide +kernel)
    obtain ⟨key, hkey, hparameters, hkeys, -⟩ := hupdate rfl
    exact ⟨rfl, hkeys.trans (by decide +kernel)⟩
  · obtain ⟨-, -, hupdate⟩ := path_keys_of_routes sampleTable {} {} ""
      (sample.route .update .put [.fixed "sample", .parameter "taken_at"]) (by decide +kernel)
    obtain ⟨key, hkey, hparameters, hkeys, -⟩ := hupdate rfl
    exact ⟨rfl, hkeys.trans (by decide +kernel)⟩

end TableCodegen
