import TableCodegen.Document.Gist.Conversion
import TableCodegen.Document.Gist.Request
import TableCodegen.Formatter

/-!
# Gists

A gist is a piece of handler code to copy from. Every entity has four: the conversions to the two route
views, the columns to update and the conditions of a query. The gists of many entities are collected by
kind, one file for each kind.

Main definitions:

* `GistKind`, `Gists`: the kinds, and the gists of an entity.
* `renderGists`: the formatted gists of an entity.
* `GistSet`: the gists of many entities, and the files that hold them.
-/

namespace TableCodegen

/-- The kinds of gists. -/
inductive GistKind where
  | convertApi
  | convertRpc
  | updateMap
  | filter
  deriving Repr, DecidableEq

namespace GistKind

/-- All kinds, in the order in which they are rendered and written. -/
def all : List GistKind := [convertApi, convertRpc, updateMap, filter]

/-- The name of a kind. -/
def name : GistKind → String
  | convertApi => "convert-api"
  | convertRpc => "convert-rpc"
  | updateMap => "update-map"
  | filter => "filter"

/-- The file that holds the gists of a kind. -/
def fileName (kind : GistKind) : String :=
  kind.name ++ ".txt"

end GistKind

/-- The gists of an entity. -/
structure Gists where
  convertApi : String
  convertRpc : String
  updateMap : String
  filter : String
  deriving Repr, DecidableEq

/-- The gist of a kind. -/
def Gists.get (gists : Gists) : GistKind → String
  | .convertApi => gists.convertApi
  | .convertRpc => gists.convertRpc
  | .updateMap => gists.updateMap
  | .filter => gists.filter

/-! ## Rendering -/

/-- The conversion function of an entity to a package. -/
def Entity.conversion (entity : Entity) (storage : List Field) (packageName suffix : String) :
    ConversionFunction where
  modelName := entity.modelName
  storageName := Naming.replaceInitialisms entity.structName
  packageName := packageName
  suffix := suffix
  members := entity.convertMembers storage

/-- The raw text of the gist of a kind. -/
def Entity.gistText (entity : Entity) (storage : List Field) : GistKind → String
  | .convertApi => (entity.conversion storage "types" "API").toText
  | .convertRpc => (entity.conversion storage "pb" "RPC").toText
  | .updateMap => (UpdateFragment.ofEntity entity).toText
  | .filter => (FilterFunction.ofEntity entity).toText

/-- The formatted gist of a kind, without blanks at its end. -/
def Entity.renderGist (entity : Entity) (storage : List Field) (formatter : SourceFormatter)
    (kind : GistKind) : Except Failure String :=
  let raw := entity.gistText storage kind
  let formatted :=
    inStep ("Failed to build gists of \x60" ++ entity.table ++ "\x60")
      (inStep ("Failed to format " ++ kind.name ++ " gist\n" ++ raw) (formatter raw))
  formatted.map fun text => String.ofList (Text.trimEnd text.toList)

/-- The gists of an entity; the storage view has to have the same columns. -/
def renderGists (entity : Entity) (storage : List Field) (formatter : SourceFormatter) :
    Except Failure Gists := do
  if entity.fields.length ≠ storage.length then
    throw (.ofText ("storage view of \x60" ++ entity.table ++ "\x60 has " ++
      toString storage.length ++ " fields, expected " ++ toString entity.fields.length))
  return {
    convertApi := ← entity.renderGist storage formatter .convertApi
    convertRpc := ← entity.renderGist storage formatter .convertRpc
    updateMap := ← entity.renderGist storage formatter .updateMap
    filter := ← entity.renderGist storage formatter .filter }

/-! ## Collections -/

/-- The gists of many entities, in order. -/
structure GistSet where
  entries : List Gists := []
  deriving Repr, DecidableEq

namespace GistSet

/-- The set with the gists of one more entity. -/
def push (set : GistSet) (gists : Gists) : GistSet :=
  ⟨set.entries ++ [gists]⟩

/-- The set holds no gists. -/
def isEmpty (set : GistSet) : Bool :=
  set.entries.isEmpty

/-- The text of the file of a kind: its gists with a blank line between neighbours. -/
def fileText (set : GistSet) (kind : GistKind) : String :=
  "\n\n".intercalate (set.entries.map (·.get kind))

/-- The files and their texts; an empty set needs none. -/
def files (set : GistSet) : List (String × String) :=
  if set.isEmpty then [] else GistKind.all.map fun kind => (kind.fileName, set.fileText kind)

end GistSet

end TableCodegen
