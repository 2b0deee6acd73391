import TableCodegen.Catalog.Snapshot
import TableCodegen.Config.Document
import TableCodegen.Data.Json
import TableCodegen.Data.Toml.Document
import TableCodegen.Data.Toml.Render
import TableCodegen.Data.Yaml.Document
import TableCodegen.Data.Yaml.Render
import TableCodegen.Failure
import TableCodegen.File.Path
import TableCodegen.Text.Unicode.Case

/-!
# Data formats

Settings and snapshots are written in one of three formats. The ending of a file's name says in which.

Main definitions:

* `DataFormat`, `DataFormat.ofPath`: the formats.
* `DataFormat.parse?`, `DataFormat.render`: document trees in a format.
* `Stored`, `DataFormat.decode?`, `DataFormat.encode`: values in a format.
-/

namespace TableCodegen

/-- A format of data files. -/
inductive DataFormat where
  | json
  | yaml
  | toml
  deriving Repr, DecidableEq

namespace DataFormat

/-- The format of files with an ending; letter case does not count. -/
def ofExtension (ending : String) : Except ConfigFault DataFormat :=
  match String.ofList (Text.Unicode.lowerText ending.toList) with
  | "json" => .ok json
  | "yaml" => .ok yaml
  | "yml" => .ok yaml
  | "toml" => .ok toml
  | other => .error (.unsupportedFormat other)

/-- The format of a file. -/
def ofPath (path : String) : Except ConfigFault DataFormat :=
  ofExtension ((Path.extension? path).getD "")

/-- Reads a document tree. -/
def parse? : DataFormat → String → Option LimitedTree
  | json => Json.parse?
  | yaml => Yaml.parse?
  | toml => Toml.parse?

/-- Writes a document tree. -/
def render : DataFormat → Tree → String
  | json => Json.render
  | yaml => Yaml.render
  | toml => Toml.render

end DataFormat

/-! ## Values -/

/-- A type whose values are kept in data files. A value may be read through within limits. -/
class Stored (α : Type) where
  ofTree? : Limits → Tree → Option α
  toTree : α → Tree

instance : Stored DbConfig := ⟨fun _ => DbConfig.ofTree?, DbConfig.toTree⟩

instance : Stored GenerationConfig := ⟨GenerationConfig.ofTree?, GenerationConfig.toTree⟩

instance : Stored ApiConfig := ⟨fun _ => ApiConfig.ofTree?, ApiConfig.toTree⟩

instance : Stored ProjectConfig := ⟨ProjectConfig.ofTree?, ProjectConfig.toTree⟩

instance : Stored Snapshot := ⟨fun _ => Snapshot.ofTree?, Snapshot.toTree⟩

namespace DataFormat

/-- Reads a value. -/
def decode? {α : Type} [Stored α] (format : DataFormat) (text : String) : Option α :=
  (format.parse? text).bind fun document => Stored.ofTree? document.limits document.tree

/-- Reads a value or says that the text holds none. -/
def decode {α : Type} [Stored α] (format : DataFormat) (text : String) : Except Failure α :=
  match format.decode? text with
  | some value => .ok value
  | none => .error (.ofCause .undecodable)

/-- Writes a value. -/
def encode {α : Type} [Stored α] (format : DataFormat) (value : α) : String :=
  format.render (Stored.toTree value)

end DataFormat

end TableCodegen
