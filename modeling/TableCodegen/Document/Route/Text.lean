import TableCodegen.Document.Route

/-!
# The text of route documents

A route document is written as lines: the declaration of the model, one group with all other types, and
the service with its routes. A blank line stands between neighbours, except that a request type and
its response type stand together.

Main definitions:

* `RouteDocument.lines`, `RouteDocument.toText`: a document as lines and as text.
* `ServiceDocument`: the document that imports route documents.
-/

namespace TableCodegen

/-- The first line of every route document. -/
def versionLine : String := "syntax = \"v1\""

/-- The lines of a type at a depth. -/
def TypeDecl.lines (depth : Nat) (opening : String) (decl : TypeDecl) : List String :=
  match decl.body with
  | .empty => [indented depth (opening ++ decl.name ++ " \x7b\x7d")]
  | .members list =>
    [indented depth (opening ++ decl.name ++ " \x7b")] ++
      list.map (fun member => indented (depth + 1) member.toText) ++ [indented depth "\x7d"]

/-- The lines of the two types of a route. -/
def Exchange.lines (exchange : Exchange) : List String :=
  exchange.request.lines 1 "" ++ exchange.response.lines 1 ""

namespace Route

/-- The line that binds a path to the types of a route. -/
def bindingLine (route : Route) : String :=
  route.method.toText ++ " " ++ String.join (route.path.map Segment.toText) ++ " (" ++
    route.request ++ ") returns (" ++ route.response ++ ")"

/-- The lines of a route. -/
def lines (route : Route) : List String :=
  ["@doc " ++ inQuotes route.doc, "@handler " ++ route.handler, route.bindingLine].map (indented 1)

end Route

namespace RouteDocument

/-- The lines of the service. -/
def serviceLines (document : RouteDocument) : List String :=
  ["@server ("] ++
    clauseIf (!document.serverPath.isEmpty) (indented 1 ("prefix: " ++ document.serverPath)) ++
    [indented 1 ("group: " ++ document.group), ")", "service " ++ document.service ++ " \x7b"] ++
    List.intercalate [""] (document.routes.map Route.lines) ++ ["\x7d"]

/-- The lines of a document. -/
def lines (document : RouteDocument) : List String :=
  [versionLine, ""] ++
    clauseIf (!document.comment.isEmpty)
      ("// " ++ document.model.name ++ " " ++ document.comment) ++
    document.model.lines 0 "type " ++ ["", "type ("] ++
    List.intercalate [""] (document.exchanges.map Exchange.lines) ++ [")", ""] ++
    document.serviceLines

/-- The text of a document. -/
def toText (document : RouteDocument) : String :=
  textOfLines document.lines

end RouteDocument

/-! ## Service documents -/

/-- The document of a whole service: what it is and which route documents belong to it. -/
structure ServiceDocument where
  title : String
  desc : String
  author : String
  email : String
  version : String
  imports : List String
  deriving Repr, DecidableEq

namespace ServiceDocument

/-- The document for settings and the files to import. -/
def ofConfig (api : ApiConfig) (imports : List String) : ServiceDocument where
  title := quotable api.title
  desc := quotable api.desc
  author := quotable api.author
  email := quotable api.email
  version := quotable api.version
  imports := imports

/-- The lines of a service document. -/
def lines (document : ServiceDocument) : List String :=
  [versionLine, "", "info ("] ++
    [("title", document.title), ("desc", document.desc), ("author", document.author),
      ("email", document.email), ("version", document.version)].map
      (fun entry => indented 1 (entry.1 ++ ": " ++ inQuotes entry.2)) ++
    [")", ""] ++ document.imports.map fun file => "import " ++ inQuotes file

/-- The text of a service document. -/
def toText (document : ServiceDocument) : String :=
  textOfLines document.lines

end ServiceDocument

end TableCodegen
