import TableCodegen.Document.Route.Member

/-!
# Route documents

The route document of an entity declares the model, the request and response types of its routes, and
the routes themselves. Routes that name one row or many rows by key are there only for entities with a
key.

Main definitions:

* `TypeDecl`, `Exchange`, `Route`, `RouteDocument`: what a document holds.
* `RouteDocument.ofEntity`: the document of an entity.
-/

namespace TableCodegen

/-! ## Contents -/

/-- The members of a declared type. -/
inductive TypeBody where
  /-- No members, on one line. -/
  | empty
  | members (list : List RouteMember)
  deriving Repr, DecidableEq

/-- The members, if any. -/
def TypeBody.toList : TypeBody → List RouteMember
  | empty => []
  | members list => list

/-- A declared type. -/
structure TypeDecl where
  name : String
  body : TypeBody
  deriving Repr, DecidableEq

/-- The two types of a route. -/
structure Exchange where
  request : TypeDecl
  response : TypeDecl
  deriving Repr, DecidableEq

/-- The method of a route. -/
inductive HttpMethod where
  | post
  | put
  | delete
  | get
  deriving Repr, DecidableEq

/-- The spelling of a method. -/
def HttpMethod.toText : HttpMethod → String
  | post => "post"
  | put => "put"
  | delete => "delete"
  | get => "get"

/-- A segment of a path. -/
inductive Segment where
  | fixed (text : String)
  | parameter (name : String)
  deriving Repr, DecidableEq

/-- A segment behind its slash. -/
def Segment.toText : Segment → String
  | fixed text => "/" ++ text
  | parameter name => "/:" ++ name

/-- A route: what it does, who handles it, and the types that it takes and gives. -/
structure Route where
  doc : String
  handler : String
  method : HttpMethod
  path : List Segment
  request : String
  response : String
  deriving Repr, DecidableEq

/-- The parameters of a route's path. -/
def Route.parameters (route : Route) : List String :=
  route.path.filterMap fun
    | .fixed _ => none
    | .parameter name => some name

/-- A route document. -/
structure RouteDocument where
  /-- The comment of the model; empty when the table has none. -/
  comment : String
  model : TypeDecl
  exchanges : List Exchange
  /-- Empty: the service has no path of its own. -/
  serverPath : String
  group : String
  service : String
  routes : List Route
  deriving Repr, DecidableEq

/-- All types that a document declares, in order. -/
def RouteDocument.declarations (document : RouteDocument) : List TypeDecl :=
  document.model :: document.exchanges.flatMap fun exchange => [exchange.request, exchange.response]

/-! ## Names -/

/-- What a route does with an entity. -/
inductive RouteAction where
  | create
  | update
  | batchUpdate
  | delete
  | batchDelete
  | get
  | list
  | filter
  deriving Repr, DecidableEq

namespace RouteAction

/-- The name of the handler for a model. -/
def handler (model : String) : RouteAction → String
  | create => "Create" ++ model
  | update => "Update" ++ model
  | batchUpdate => "BatchUpdate" ++ model
  | delete => "Delete" ++ model
  | batchDelete => "BatchDelete" ++ model
  | get => "Get" ++ model
  | list => "Get" ++ model ++ "List"
  | filter => "Filter" ++ model

/-- The name of the request type. -/
def request (model : String) (action : RouteAction) : String :=
  action.handler model ++ "Req"

/-- The name of the response type. -/
def response (model : String) (action : RouteAction) : String :=
  action.handler model ++ "Resp"

/-- What a route does, in words; the label names the entity. -/
def doc (label : String) : RouteAction → String
  | create => "创建" ++ label
  | update => "更新" ++ label
  | batchUpdate => "批量更新" ++ label
  | delete => "删除" ++ label
  | batchDelete => "批量删除" ++ label
  | get => "获取" ++ label
  | list => "获取" ++ label ++ "列表"
  | filter => "筛选" ++ label

end RouteAction

/-! ## Members that every document has -/

/-- The page of a query. -/
def pageMember (place : RequestPlace) : RouteMember where
  name := "Page"
  type := .plain (.scalar .int64)
  tag := .request place "page" (.default 1) [.min 1] (some "页码")
  comment := "页码"

/-- The page size of a query. -/
def pageSizeMember (place : RequestPlace) : RouteMember where
  name := "PageSize"
  type := .plain (.scalar .int64)
  tag := .request place "page_size" (.default 20) [.min 1, .max 1000] (some "每页数量")
  comment := "每页数量"

/-- The number of rows that a query finds. -/
def totalMember : RouteMember where
  name := "Total"
  type := .plain (.scalar .int64)
  tag := .response "total"
  comment := "总数"

/-- The rows on a page of a query. -/
def listMember (model : String) : RouteMember where
  name := "List"
  type := .listOfDeclared model
  tag := .response "list"
  comment := "列表"

/-! ## Members that name rows

The key of a table that was read always has a comment (`key_members_commented`), so that none of these members
stands without one. -/

namespace IdInfo

/-- The key in a response. -/
def responseMember (id : IdInfo) : RouteMember where
  name := id.name
  type := .plain id.type
  tag := .response id.rawName
  comment := singleLine id.comment

/-- The key in a path. -/
def pathMember (id : IdInfo) : RouteMember where
  name := id.name
  type := .plain id.type
  tag := .path id.rawName
  comment := singleLine id.comment

/-- The keys of a batch. -/
def batchMember (id : IdInfo) : RouteMember where
  name := id.namePlural
  type := .listOf id.type
  tag := .request .body id.rawNamePlural .mandatory [.required] (some (quotable id.label))
  comment := singleLine id.comment

end IdInfo

/-! ## The document of an entity -/

namespace Entity

/-- The types of the route of an action. -/
def exchange (entity : Entity) (action : RouteAction) (request : List RouteMember)
    (response : TypeBody) : Exchange where
  request := ⟨action.request entity.modelName, .members request⟩
  response := ⟨action.response entity.modelName, response⟩

/-- A row of the model as a member. -/
def modelMember (entity : Entity) : RouteMember where
  name := entity.modelName
  type := .declared entity.modelName
  tag := .response entity.objectName
  comment := ""

/-- The types of the routes that name rows by key. -/
def keyedExchanges (entity : Entity) (id : IdInfo) : List Exchange := [
  entity.exchange .update (entity.membersIn .update) .empty,
  entity.exchange .batchUpdate (id.batchMember :: entity.membersIn .batchUpdate) .empty,
  entity.exchange .delete [id.pathMember] .empty,
  entity.exchange .batchDelete [id.batchMember] .empty,
  entity.exchange .get [id.pathMember] (.members [entity.modelMember])]

/-- The types of a route that finds rows and gives a page of them. -/
def pageExchange (entity : Entity) (action : RouteAction) (place : RequestPlace) (mode : Mode) :
    Exchange :=
  entity.exchange action ([pageMember place, pageSizeMember place] ++ entity.membersIn mode)
    (.members [totalMember, listMember entity.modelName])

/-- The types of all routes. -/
def exchanges (entity : Entity) : List Exchange :=
  [entity.exchange .create (entity.membersIn .create)
      (.members (entity.id.toList.map IdInfo.responseMember))] ++
    entity.id.toList.flatMap entity.keyedExchanges ++
    [entity.pageExchange .list .query .get, entity.pageExchange .filter .body .filter]

/-- The name of the entity in the documentation of routes: the label of the table, or the model. -/
def docLabel (entity : Entity) : String :=
  let label := labelOf (singleLine entity.tableComment)
  if label.isEmpty then entity.modelName else quotable label

/-- A route of the entity. -/
def route (entity : Entity) (action : RouteAction) (method : HttpMethod) (path : List Segment) :
    Route where
  doc := action.doc entity.docLabel
  handler := action.handler entity.modelName
  method := method
  path := path
  request := action.request entity.modelName
  response := action.response entity.modelName

/-- The routes that name rows by key. -/
def keyedRoutes (entity : Entity) (id : IdInfo) : List Route :=
  let one := [Segment.fixed entity.routeName, .parameter id.rawName]
  let batch := [Segment.fixed entity.listRouteName, .fixed "batch"]
  [entity.route .update .put one, entity.route .batchUpdate .put batch,
    entity.route .delete .delete one, entity.route .batchDelete .delete batch,
    entity.route .get .get one]

/-- All routes. -/
def routes (entity : Entity) : List Route :=
  [entity.route .create .post [.fixed entity.routeName]] ++
    entity.id.toList.flatMap entity.keyedRoutes ++
    [entity.route .list .get [.fixed entity.listRouteName],
      entity.route .filter .post [.fixed entity.listRouteName, .fixed "filter"]]

end Entity

/-- The path before all routes of a service: the two parts that settings give, without slashes around
    them and without empty ones. -/
def ApiConfig.serverPath (api : ApiConfig) : String :=
  let parts := [api.routePrefix, api.groupPrefix].map fun part =>
    Text.dropAroundWhile (· == '/') part.toList
  String.join ((parts.filter (!·.isEmpty)).map fun part => "/" ++ String.ofList part)

/-- The route document of an entity. -/
def RouteDocument.ofEntity (entity : Entity) (api : ApiConfig) : RouteDocument where
  comment := singleLine entity.tableComment
  model := ⟨entity.modelName, .members (entity.membersIn .model)⟩
  exchanges := entity.exchanges
  serverPath := api.serverPath
  group := entity.groupName
  service := api.serviceName
  routes := entity.routes

end TableCodegen
