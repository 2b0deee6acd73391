import Mathlib.Data.List.Basic
import TableCodegen.Proofs.Document.Exchange

/-!
# Request types of route documents

A route document declares the request types of all its routes. Here the members of a request type are
looked up by the name of the type, as handler code refers to it.

Results:

* `RouteAction.request_inj`: the request types of different routes have different names.
* `requestMembers_ofEntity`: the members of the request of each action.
* `requestMembers_update`, `requestMembers_filter`: the members of the update and the filter request.
* `exists_request_iff`: the request types of an entity's own actions are declared, and no others.
* `requestOf_eq`, `requestOf_of_not_mem`: a request has members of its own and those of a list of columns.
-/

namespace TableCodegen

/-- The members of the request types with a name. -/
def RouteDocument.requestMembers (document : RouteDocument) (name : String) : List RouteMember :=
  (document.exchanges.filter fun exchange => exchange.request.name == name).flatMap
    fun exchange => exchange.request.body.toList

/-- Different routes of a model take different request types. -/
theorem RouteAction.request_inj {model : String} {a b : RouteAction} :
    a.request model = b.request model ↔ a = b := by
  constructor
  · intro h
    -- two names differ in a letter before the model or in their length
    have hlist := congrArg String.toList h
    cases a <;> cases b <;> simp [request, handler] at hlist ⊢
  · rintro rfl
    rfl

namespace Entity

variable (entity : Entity) (api : ApiConfig)

/-- The members of the request of an action; a request that names rows by key has members only if there
    is a key. -/
def requestOf : RouteAction → List RouteMember
  | .create => entity.membersIn .create
  | .update => if entity.id.isSome then entity.membersIn .update else []
  | .batchUpdate =>
    entity.id.toList.flatMap fun id => id.batchMember :: entity.membersIn .batchUpdate
  | .delete | .get => entity.id.toList.map IdInfo.pathMember
  | .batchDelete => entity.id.toList.map IdInfo.batchMember
  | .list => [pageMember .query, pageSizeMember .query] ++ entity.membersIn .get
  | .filter => [pageMember .body, pageSizeMember .body] ++ entity.membersIn .filter

theorem requestMembers_ofEntity (action : RouteAction) :
    (RouteDocument.ofEntity entity api).requestMembers (action.request entity.modelName) =
      entity.requestOf action := by
  cases hid : entity.id <;> cases action <;>
    simp [RouteDocument.requestMembers, RouteDocument.ofEntity, exchanges, keyedExchanges,
      pageExchange, exchange, hid, RouteAction.request_inj, TypeBody.toList, requestOf]

theorem requestMembers_update :
    (RouteDocument.ofEntity entity api).requestMembers
        (RouteAction.update.request entity.modelName) =
      if entity.id.isSome then entity.membersIn .update else [] :=
  entity.requestMembers_ofEntity api .update

theorem requestMembers_filter :
    (RouteDocument.ofEntity entity api).requestMembers
        (RouteAction.filter.request entity.modelName) =
      [pageMember .body, pageSizeMember .body] ++ entity.membersIn .filter :=
  entity.requestMembers_ofEntity api .filter

/-- An entity declares the request types of its own actions. -/
theorem exists_request_iff (action : RouteAction) :
    (∃ exchange ∈ entity.exchanges, exchange.request.name = action.request entity.modelName) ↔
      action ∈ entity.actions := by
  have hinjective : Function.Injective (RouteAction.request entity.modelName) :=
    fun _ _ => RouteAction.request_inj.mp
  have hnames : entity.exchanges.map (·.request.name) =
      entity.actions.map (RouteAction.request entity.modelName) := by
    have h := congrArg (List.map Prod.fst) entity.names_exchanges
    rwa [List.map_map, List.map_map] at h
  rw [← List.mem_map, hnames, List.mem_map_of_injective hinjective]

theorem update_mem_actions : .update ∈ entity.actions ↔ entity.id.isSome = true := by
  rw [actions]
  cases entity.id <;> simp [keyedActions]

end Entity

/-! ## The parts of a request -/

/-- The list of columns that the request of an action holds. -/
def RouteAction.mode? : RouteAction → Option Mode
  | create => some .create
  | update => some .update
  | batchUpdate => some .batchUpdate
  | list => some .get
  | filter => some .filter
  | delete | batchDelete | get => none

namespace Entity

variable (entity : Entity)

/-- The members of a request that do not stand for columns. -/
def addedMembers : RouteAction → List RouteMember
  | .create | .update => []
  | .batchUpdate | .batchDelete => entity.id.toList.map IdInfo.batchMember
  | .delete | .get => entity.id.toList.map IdInfo.pathMember
  | .list => [pageMember .query, pageSizeMember .query]
  | .filter => [pageMember .body, pageSizeMember .body]

/-- The request of an action has the members that are added, and those of the columns of its mode. -/
theorem requestOf_eq {action : RouteAction} (h : action ∈ entity.actions) :
    entity.requestOf action =
      entity.addedMembers action ++ action.mode?.toList.flatMap fun mode => entity.membersIn mode := by
  unfold actions at h
  cases hid : entity.id <;> cases action <;>
    simp_all [requestOf, addedMembers, RouteAction.mode?, keyedActions]

/-- Without a key, the actions that name rows have no requests. -/
theorem requestOf_of_not_mem {action : RouteAction} (h : action ∉ entity.actions) :
    entity.requestOf action = [] := by
  unfold actions at h
  cases hid : entity.id <;> cases action <;> simp_all [requestOf, keyedActions]

/-- A member of a request is an added one or that of a column of the mode. -/
theorem mem_requestOf {action : RouteAction} {member : RouteMember} (h : member ∈ entity.requestOf action) :
    member ∈ entity.addedMembers action ∨
      ∃ mode, action.mode? = some mode ∧ member ∈ entity.membersIn mode := by
  by_cases haction : action ∈ entity.actions
  · rw [requestOf_eq entity haction, List.mem_append, List.mem_flatMap] at h
    refine h.imp_right ?_
    rintro ⟨mode, hmode, hmember⟩
    exact ⟨mode, Option.mem_toList.mp hmode, hmember⟩
  · rw [requestOf_of_not_mem entity haction] at h
    cases h

end Entity

end TableCodegen
