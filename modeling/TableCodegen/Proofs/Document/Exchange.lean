import TableCodegen.Document.Route

/-!
# The routes of an entity

An entity has a route for every action, and those that name rows by key only when it has a key. All names of
types and handlers in its route document come from the actions and the name of the model.

Results:

* `Entity.names_exchanges`, `Entity.handlers_routes`: the names of the types and the handlers of all routes.
* `Entity.exists_route_of_mem_routes`: every route of an entity is that of an action.
* `RouteDocument.names_declarations`: the names of the types that a route document declares.
* `RouteAction.doc_eq`: the words for a route have the label of its entity between a verb and a noun.
* `Entity.AllMembers.exchanges`: what holds of every kind of member holds of all members of all types.
-/

namespace TableCodegen

/-! ## Specification -/

/-- The actions that name rows by key. -/
def keyedActions : List RouteAction :=
  [.update, .batchUpdate, .delete, .batchDelete, .get]

/-- What the routes of an entity do, in order. -/
def Entity.actions (entity : Entity) : List RouteAction :=
  [.create] ++ (if entity.id.isSome then keyedActions else []) ++ [.list, .filter]

/-- What stands in front of the label in the words for a route. -/
def RouteAction.docVerb : RouteAction → String
  | create => "创建"
  | update => "更新"
  | batchUpdate => "批量更新"
  | delete => "删除"
  | batchDelete => "批量删除"
  | get | list => "获取"
  | filter => "筛选"

/-- What stands behind it. -/
def RouteAction.docNoun : RouteAction → String
  | list => "列表"
  | _ => ""

/-- What holds of the members of every kind that the types of an entity's routes have. -/
structure Entity.AllMembers (entity : Entity) (P : RouteMember → Prop) : Prop where
  fields : ∀ mode, ∀ member ∈ entity.membersIn mode, P member
  id : ∀ id ∈ entity.id, P id.responseMember ∧ P id.pathMember ∧ P id.batchMember
  model : P entity.modelMember
  page : ∀ place, P (pageMember place)
  pageSize : ∀ place, P (pageSizeMember place)
  total : P totalMember
  list : P (listMember entity.modelName)

theorem RouteAction.doc_eq (action : RouteAction) (label : String) :
    action.doc label = action.docVerb ++ label ++ action.docNoun := by
  cases action with
  | list => rfl
  | _ => exact String.append_empty.symm

/-! ## Names -/

namespace Entity

theorem names_exchanges (entity : Entity) :
    entity.exchanges.map (fun exchange => (exchange.request.name, exchange.response.name)) =
      entity.actions.map fun action => (action.request entity.modelName, action.response entity.modelName) := by
  unfold exchanges actions
  cases entity.id <;> rfl

theorem handlers_routes (entity : Entity) :
    entity.routes.map (·.handler) = entity.actions.map (·.handler entity.modelName) := by
  unfold routes actions
  cases entity.id <;> rfl

/-- The names of the types of a route come from its action. -/
theorem exists_action {entity : Entity} {exchange : Exchange} (h : exchange ∈ entity.exchanges) :
    ∃ action ∈ entity.actions, exchange.request.name = action.request entity.modelName ∧
      exchange.response.name = action.response entity.modelName := by
  have hmem := List.mem_map_of_mem (f := fun exchange => (exchange.request.name, exchange.response.name)) h
  rw [names_exchanges, List.mem_map] at hmem
  obtain ⟨action, haction, heq⟩ := hmem
  exact ⟨action, haction, (Prod.mk.inj heq).1.symm, (Prod.mk.inj heq).2.symm⟩

/-- A route of an entity is that of an action. -/
theorem exists_route_of_mem_routes {entity : Entity} {route : Route} (h : route ∈ entity.routes) :
    ∃ action method path, route = entity.route action method path := by
  simp only [routes, List.mem_append, List.mem_cons, List.not_mem_nil, or_false, List.mem_flatMap,
    keyedRoutes] at h
  obtain (rfl | ⟨id, -, rfl | rfl | rfl | rfl | rfl⟩) | rfl | rfl := h <;> exact ⟨_, _, _, rfl⟩

end Entity

namespace RouteDocument

/-- The names of the types that a route document declares. -/
theorem names_declarations (entity : Entity) (api : ApiConfig) :
    (ofEntity entity api).declarations.map (·.name) =
      entity.modelName :: entity.actions.flatMap fun action =>
        [action.request entity.modelName, action.response entity.modelName] := by
  have hnames := congrArg (List.flatMap fun names => [names.1, names.2]) entity.names_exchanges
  rw [List.flatMap_map, List.flatMap_map] at hnames
  rw [declarations, List.map_cons, List.map_flatMap]
  exact congrArg (entity.modelName :: ·) hnames

end RouteDocument

/-! ## Members -/

namespace Entity.AllMembers

variable {entity : Entity} {P : RouteMember → Prop} (h : entity.AllMembers P)

include h

theorem keyedExchanges {id : IdInfo} (hid : id ∈ entity.id) : ∀ exchange ∈ entity.keyedExchanges id,
    (∀ member ∈ exchange.request.body.toList, P member) ∧ ∀ member ∈ exchange.response.body.toList, P member := by
  obtain ⟨-, hpath, hbatch⟩ := h.id id hid
  have hnone : ∀ member ∈ TypeBody.empty.toList, P member := List.forall_mem_nil _
  have hone : ∀ member ∈ [id.pathMember], P member := List.forall_mem_singleton.mpr hpath
  have hmany : ∀ member ∈ [id.batchMember], P member := List.forall_mem_singleton.mpr hbatch
  have hmodel : ∀ member ∈ [entity.modelMember], P member := List.forall_mem_singleton.mpr h.model
  simp only [Entity.keyedExchanges, List.forall_mem_cons]
  exact ⟨⟨h.fields _, hnone⟩, ⟨List.forall_mem_cons.mpr ⟨hbatch, h.fields _⟩, hnone⟩, ⟨hone, hnone⟩,
    ⟨hmany, hnone⟩, ⟨hone, hmodel⟩, List.forall_mem_nil _⟩

theorem pageExchange (action : RouteAction) (place : RequestPlace) (mode : Mode) :
    (∀ member ∈ (entity.pageExchange action place mode).request.body.toList, P member) ∧
      ∀ member ∈ (entity.pageExchange action place mode).response.body.toList, P member := by
  have hpages : ∀ member ∈ [pageMember place, pageSizeMember place], P member :=
    List.forall_mem_cons.mpr ⟨h.page place, List.forall_mem_singleton.mpr (h.pageSize place)⟩
  have hrows : ∀ member ∈ [totalMember, listMember entity.modelName], P member :=
    List.forall_mem_cons.mpr ⟨h.total, List.forall_mem_singleton.mpr h.list⟩
  exact ⟨List.forall_mem_append.mpr ⟨hpages, h.fields mode⟩, hrows⟩

/-- All members of the types of all routes. -/
theorem exchanges : ∀ exchange ∈ entity.exchanges,
    (∀ member ∈ exchange.request.body.toList, P member) ∧ ∀ member ∈ exchange.response.body.toList, P member := by
  rw [Entity.exchanges, List.forall_mem_append, List.forall_mem_append, List.forall_mem_singleton,
    List.forall_mem_cons, List.forall_mem_singleton]
  refine ⟨⟨⟨h.fields _, ?_⟩, fun exchange hexchange => ?_⟩, h.pageExchange _ _ _, h.pageExchange _ _ _⟩
  · show ∀ member ∈ entity.id.toList.map IdInfo.responseMember, P member
    rw [List.forall_mem_map]
    exact fun id hid => (h.id id (Option.mem_toList.mp hid)).1
  · obtain ⟨id, hid, hmem⟩ := List.mem_flatMap.mp hexchange
    exact h.keyedExchanges (Option.mem_toList.mp hid) exchange hmem

end Entity.AllMembers

end TableCodegen
