import TableCodegen.Document.Route.Text
import TableCodegen.Layout.Pass

/-!
# Rendered route documents

The raw text of a route document is checked and laid out. A refusal says which document it was.
-/

namespace TableCodegen

/-- The route document of an entity, laid out. -/
def renderRoutes (entity : Entity) (api : ApiConfig) (validator : RouteValidator)
    (formatter : SourceFormatter) : Except Failure String :=
  inStep ("Failed to format route file of \x60" ++ entity.table ++ "\x60")
    (formatRoutes validator formatter (RouteDocument.ofEntity entity api).toText)

/-- The document of a service, laid out. -/
def renderService (api : ApiConfig) (imports : List String) (validator : RouteValidator)
    (formatter : SourceFormatter) : Except Failure String :=
  inStep "Failed to format aggregate route file"
    (formatRoutes validator formatter (ServiceDocument.ofConfig api imports).toText)

end TableCodegen
