import Mathlib.Data.List.Forall2
import TableCodegen.Document.Gist
import TableCodegen.Proofs.Document.Request
import TableCodegen.Proofs.Field.View

/-!
# Handler code and request types

The code for updates and filters reads the members of request types that a route document declares. Both
are made from the same fields, but apart from each other. Here the code is taken as a list of blocks, one
for each column, that say what they read and how, and the blocks are compared with the members.

Results:

* `UpdateEntry.lines_block`, `FilterEntry.lines_block`: the lines of an entry are the lines of its block.
* `Field.RouteTyped.readOf_requestValue`: a member is read by its type.
* `forall₂_updates`, `forall₂_narrows`: every column has its block, and the block reads a member in the way
  that the type of the member asks for.
* `handler_blocks_fit_requests`: the request has the members that are read, the one for an update exactly
  when the entity has a key.
* `log_updates_without_request`: a table without a key has code for an update that no request fits.
-/

namespace TableCodegen

/-! ## Blocks of handler code -/

/-- A read of a member of a request. -/
structure MemberRead where
  member : String
  /-- The value behind a pointer is taken. -/
  dereferenced : Bool
  /-- The value is a number of milliseconds and becomes a time. -/
  inMillis : Bool
  deriving Repr, DecidableEq

/-- The expression for a read. -/
def MemberRead.toText (read : MemberRead) : String :=
  match read.dereferenced, read.inMillis with
  | false, false => "req." ++ read.member
  | true, false => "*req." ++ read.member
  | false, true => "time.UnixMilli(req." ++ read.member ++ ")"
  | true, true => "time.UnixMilli(*req." ++ read.member ++ ")"

/-- What handler code does with a member that it reads. -/
inductive HandlerAction where
  /-- Sets a column to the value. -/
  | set
  /-- Encodes the value as JSON in a local variable, and sets a column to that. -/
  | setEncoded (variableName : String)
  /-- Narrows a query to the rows with the value. -/
  | narrow
  deriving Repr, DecidableEq

/-- The code for one column: what is done, and the test before it, if there is one. -/
structure HandlerBlock where
  guard? : Option RequestGuard
  action : HandlerAction
  column : String
  read : MemberRead
  deriving Repr, DecidableEq

namespace HandlerBlock

/-- The line that sets the column of a block to an expression. -/
def assignment (block : HandlerBlock) (expression : String) : String :=
  "updateMap[" ++ inQuotes block.column ++ "] = " ++ expression

/-- The statements of a block. -/
def statements (block : HandlerBlock) : List String :=
  match block.action with
  | .set => [block.assignment block.read.toText]
  | .setEncoded variableName => [
    variableName ++ ", err := json.Marshal(" ++ block.read.toText ++ ")",
    "if err != nil \x7b", indented 1 "return nil, err", "\x7d",
    block.assignment ("datatypes.JSON(" ++ variableName ++ ")")]
  | .narrow => ["db = db.Where(" ++ inQuotes (block.column ++ " = ?") ++ ", " ++
      block.read.toText ++ ")"]

/-- The lines of a block. -/
def lines (block : HandlerBlock) : List String :=
  match block.guard? with
  | none => block.statements
  | some guard => [guard.line] ++ block.statements.map (indented 1) ++ ["\x7d"]

end HandlerBlock

/-! ## Blocks of entries -/

theorem Access.ofField_eq_json_iff {mode : Mode} {field : Field} :
    Access.ofField mode field = .json ↔ field.isJson = true := by
  rw [Access.ofField]
  cases field.isJson <;> cases field.isTimeField <;> cases (field.typeIn mode).isPointer <;> simp

/-- The read of a value of the member with the given name. -/
def RequestValue.readOf (name : String) : RequestValue → MemberRead
  | member => ⟨name, false, false⟩
  | pointee => ⟨name, true, false⟩
  | time => ⟨name, false, true⟩
  | timeOfPointee => ⟨name, true, true⟩

/-- The block of an entry. -/
def UpdateEntry.block (entry : UpdateEntry) : HandlerBlock where
  guard? := entry.guard?
  action := if entry.access = .json then .setEncoded entry.variableName else .set
  column := entry.rawName
  read := entry.access.requestValue.readOf entry.name

theorem UpdateEntry.statements_block (entry : UpdateEntry) :
    entry.block.statements = entry.statements := by
  obtain ⟨name, rawName, access, variableName⟩ := entry
  cases access <;> rfl

theorem UpdateEntry.lines_block (entry : UpdateEntry) : entry.block.lines = entry.lines := by
  rw [HandlerBlock.lines, statements_block]
  rfl

/-- The block of an entry behind a test. -/
def FilterEntry.block (entry : FilterEntry) (guard : RequestGuard) : HandlerBlock where
  guard? := some guard
  action := .narrow
  column := entry.rawName
  read := entry.access.requestValue.readOf entry.name

theorem FilterEntry.statements_block (entry : FilterEntry) (guard : RequestGuard) :
    (entry.block guard).statements = [entry.statement] := by
  obtain ⟨name, rawName, access, zero⟩ := entry
  cases access <;> rfl

theorem indented_indented (a b : Nat) (line : String) :
    indented a (indented b line) = indented (a + b) line := by
  rw [indented, indented, indented, ← String.append_assoc, ← String.ofList_append,
    List.replicate_append_replicate]

/-- An entry has no block when its column cannot be looked for. -/
theorem FilterEntry.lines_block (entry : FilterEntry) :
    ((entry.guard?.map entry.block).toList.flatMap HandlerBlock.lines).map (indented 1) =
      entry.lines := by
  rw [lines]
  cases entry.guard? with
  | none => rfl
  | some guard =>
    have hlines : (entry.block guard).lines =
        [guard.line, indented 1 entry.statement, "\x7d"] := by
      rw [HandlerBlock.lines, statements_block]
      rfl
    simp [hlines, indented_indented]

/-! ## Blocks that agree with members -/

/-- The block stands for the column of a field, and reads the field's member in the way that its type in
    requests of a mode asks for. -/
structure HandlerBlock.Reads (mode : Mode) (field : Field) (block : HandlerBlock) : Prop where
  column : block.column = field.rawName
  name : block.read.member = field.name
  dereferenced : block.read.dereferenced = true ↔ (field.typeIn mode).isPointer = true
  inMillis : block.read.inMillis = true ↔
    field.IsTemporal ∧
      (field.typeIn mode = .scalar .int64 ∨ field.typeIn mode = .pointer .int64)

/-- A request has the member that the block reads, and with the type that the read is made for. -/
def HandlerBlock.HasMember (mode : Mode) (members : List RouteMember) (field : Field)
    (block : HandlerBlock) : Prop :=
  ∃ member ∈ members, member.name = block.read.member ∧ member.type = .plain (field.typeIn mode)

/-- The block sets the column of a field: maps are encoded as JSON, all else is taken as it is read. If
    there is a test before the block, it is whether the member is given. -/
structure HandlerBlock.Updates (field : Field) (block : HandlerBlock) : Prop
    extends block.Reads .update field where
  action : (field.typeIn .update ≠ .scalar .jsonMap ∧ block.action = .set) ∨
    (field.typeIn .update = .scalar .jsonMap ∧
      ∃ variableName, block.action = .setEncoded variableName)
  guard : block.guard? = none ∨ block.guard? = some ⟨field.name, nilLiteral⟩

/-- The block narrows a query by the column of a field, behind a test that the member differs from the
    zero value of its type. -/
structure HandlerBlock.Narrows (field : Field) (block : HandlerBlock) : Prop
    extends block.Reads .filter field where
  action : block.action = .narrow
  guard : ∃ literal, block.guard? = some ⟨field.name, literal⟩ ∧
    (field.typeIn .filter ≠ .unknown → MemberType.ZeroLiteral (field.typeIn .filter) literal)

/-- Blocks read members that a request has, if it has one for each of their fields. -/
theorem forall₂_hasMember {mode : Mode} {members : List RouteMember} {fields : List Field}
    {blocks : List HandlerBlock} (hreads : List.Forall₂ (HandlerBlock.Reads mode) fields blocks)
    (hmembers : ∀ field ∈ fields, RouteMember.ofField mode field ∈ members) :
    List.Forall₂ (HandlerBlock.HasMember mode members) fields blocks := by
  induction hreads with
  | nil => exact .nil
  | cons hread _ ih =>
    rw [List.forall_mem_cons] at hmembers
    exact .cons ⟨_, hmembers.1, hread.name.symm, rfl⟩ (ih hmembers.2)

/-- A request without members has none for any block. -/
theorem forall₂_hasMember_nil_iff {mode : Mode} {fields : List Field} {blocks : List HandlerBlock}
    (hlength : fields.length = blocks.length) :
    List.Forall₂ (HandlerBlock.HasMember mode []) fields blocks ↔ fields = [] := by
  constructor
  · rintro (_ | ⟨⟨_, hmember, _⟩, _⟩)
    · rfl
    · cases hmember
  · rintro rfl
    cases List.length_eq_zero_iff.mp hlength.symm
    exact .nil

/-! ## Blocks of fields -/

namespace Field.RouteTyped

variable {field : Field} (h : field.RouteTyped)
include h

/-- A member is read by its type. -/
theorem readOf_requestValue (mode : Mode) (name : String) :
    (Access.ofField mode field).requestValue.readOf name =
      ⟨name, (field.typeIn mode).isPointer, field.isTimeField⟩ := by
  rw [Access.ofField]
  split
  case isTrue hjson =>
    have htime : field.isTimeField = false := by
      rw [← Bool.not_eq_true]
      intro htime
      rw [(h.time htime).1] at hjson
      cases hjson
    rw [h.typeIn_of_isJson mode hjson, htime]
    rfl
  case isFalse =>
    cases field.isTimeField <;> cases (field.typeIn mode).isPointer <;> rfl

theorem reads {mode : Mode} {block : HandlerBlock} (hcolumn : block.column = field.rawName)
    (hread : block.read = (Access.ofField mode field).requestValue.readOf field.name) :
    block.Reads mode field := by
  rw [h.readOf_requestValue] at hread
  refine ⟨hcolumn, by rw [hread], by rw [hread], ?_⟩
  rw [hread]
  constructor
  · exact fun htime => ⟨h.temporal.mp htime, h.typeIn_of_isTimeField mode htime⟩
  · exact fun htemporal => h.temporal.mpr htemporal.1

theorem updates : (UpdateEntry.ofField field).block.Updates field := by
  refine ⟨h.reads rfl rfl, ?_, ?_⟩
  · by_cases haccess : Access.ofField .update field = .json
    · refine Or.inr ⟨h.typeIn_of_isJson .update (Access.ofField_eq_json_iff.mp haccess), ?_⟩
      exact ⟨Naming.lowerCamelName field.name, if_pos haccess⟩
    · have hjson : field.isJson = false :=
        Bool.not_eq_true _ ▸ fun hjson => haccess (Access.ofField_eq_json_iff.mpr hjson)
      exact Or.inl ⟨h.typeIn_ne_jsonMap .update hjson, if_neg haccess⟩
  · show (UpdateEntry.ofField field).guard? = none ∨ (UpdateEntry.ofField field).guard? = _
    rw [UpdateEntry.guard?]
    cases (UpdateEntry.ofField field).access
    case value | time => exact Or.inl rfl
    case pointer | pointerTime | json => exact Or.inr rfl

/-- The literal that a filter compares a member with is the zero value of the member's type. -/
theorem exists_guard?_filter (hjson : field.isJson = false) :
    ∃ literal, (FilterEntry.ofField field).guard? = some ⟨field.name, literal⟩ ∧
      (field.typeIn .filter ≠ .unknown →
        MemberType.ZeroLiteral (field.typeIn .filter) literal) := by
  rw [FilterEntry.guard?, FilterEntry.ofField, Access.ofField, if_neg (by simp [hjson])]
  -- the literal follows the access: pointers first, then times, then all other values
  cases hpointer : (field.typeIn .filter).isPointer with
  | true =>
    have hzero := MemberType.zeroLiteral_of_isPointer hpointer
    cases field.isTimeField <;> exact ⟨nilLiteral, rfl, fun _ => hzero⟩
  | false =>
    cases htime : field.isTimeField with
    | true =>
      refine ⟨"0", rfl, fun _ => ?_⟩
      obtain htype | htype := h.typeIn_of_isTimeField .filter htime
      · rw [htype]
        exact .number rfl
      · rw [htype] at hpointer
        cases hpointer
    | false =>
      refine ⟨(field.typeIn .filter).emptyLiteral, rfl, fun hknown => ?_⟩
      obtain htype | ⟨s, hs, htype | htype⟩ := h.typeIn_of_not_isJson .filter hjson
      · exact absurd htype hknown
      · rw [htype]
        exact Field.zeroLiteral_of_mem_routeScalars hs
      · rw [htype] at hpointer
        cases hpointer

theorem exists_narrows (hjson : field.isJson = false) :
    ∃ guard, (FilterEntry.ofField field).guard? = some guard ∧
      ((FilterEntry.ofField field).block guard).Narrows field := by
  obtain ⟨literal, hguard, hzero⟩ := h.exists_guard?_filter hjson
  exact ⟨_, hguard, h.reads rfl rfl, rfl, literal, rfl, hzero⟩

end Field.RouteTyped

theorem FilterEntry.guard?_of_isJson {field : Field} (hjson : field.isJson = true) :
    (FilterEntry.ofField field).guard? = none := by
  have haccess : (FilterEntry.ofField field).access = .json := Access.ofField_eq_json_iff.mpr hjson
  rw [guard?, haccess]

/-! ## Texts from blocks -/

/-- The code that collects the columns to update, from its blocks. -/
def Entity.updateText (entity : Entity) (blocks : List HandlerBlock) : String :=
  textOfLines ([headingLine entity.title, "// 构建更新map",
    "updateMap := make(map[string]interface\x7b\x7d)"] ++ blocks.flatMap HandlerBlock.lines)

/-- The function that narrows a query, from its blocks. -/
def Entity.filterText (entity : Entity) (blocks : List HandlerBlock) : String :=
  textOfLines (
    [headingLine entity.title,
      "// Filter" ++ entity.modelName ++ " 构建" ++ labelOf (singleLine entity.tableComment) ++
        "筛选条件",
      "func Filter" ++ entity.modelName ++ "(db *gorm.DB, req *types." ++
        RouteAction.filter.request entity.modelName ++ ") *gorm.DB \x7b"] ++
      (blocks.flatMap HandlerBlock.lines).map (indented 1) ++ ["", indented 1 "return db", "\x7d"])

/-- The blocks that set the columns of fields. -/
def updateBlocks (fields : List Field) : List HandlerBlock :=
  fields.map fun field => (UpdateEntry.ofField field).block

/-- The blocks that narrow a query by the columns of fields. -/
def filterBlocks (fields : List Field) : List HandlerBlock :=
  (fields.map FilterEntry.ofField).flatMap fun entry => (entry.guard?.map entry.block).toList

theorem Entity.gistText_updateMap (entity : Entity) (storage : List Field) :
    entity.gistText storage .updateMap = entity.updateText
      (updateBlocks ((entity.fieldsIn .update).filter fun field => !field.primaryKey)) := by
  have hlines (fields : List Field) :
      (fields.map UpdateEntry.ofField).flatMap UpdateEntry.lines =
        (updateBlocks fields).flatMap HandlerBlock.lines := by
    simp only [updateBlocks, List.flatMap_map, UpdateEntry.lines_block]
  rw [gistText, UpdateFragment.toText, UpdateFragment.ofEntity, updateText, hlines]

theorem Entity.gistText_filter (entity : Entity) (storage : List Field) :
    entity.gistText storage .filter = entity.filterText (filterBlocks (entity.fieldsIn .filter)) := by
  have hlines (fields : List Field) :
      (fields.map FilterEntry.ofField).flatMap FilterEntry.lines =
        ((filterBlocks fields).flatMap HandlerBlock.lines).map (indented 1) := by
    simp only [filterBlocks, List.flatMap_map, List.flatMap_assoc, List.map_flatMap,
      ← FilterEntry.lines_block]
  have hrequest : ("(db *gorm.DB, req *types.Filter" : String) =
      "(db *gorm.DB, req *types." ++ "Filter" := by decide
  have hclose : ("Req) *gorm.DB \x7b" : String) = "Req" ++ ") *gorm.DB \x7b" := by decide
  rw [gistText, FilterFunction.toText, FilterFunction.ofEntity, filterText, hlines,
    RouteAction.request, RouteAction.handler, hrequest, hclose]
  simp only [String.append_assoc]

/-- Every field has a block that sets its column, in order. -/
theorem forall₂_updates {fields : List Field} (h : ∀ field ∈ fields, field.RouteTyped) :
    List.Forall₂ HandlerBlock.Updates fields (updateBlocks fields) := by
  rw [updateBlocks, List.forall₂_map_right_iff, List.forall₂_same]
  exact fun field hfield => (h field hfield).updates

/-- Of the fields, all but the JSON ones have a block that narrows a query, in order. -/
theorem forall₂_narrows {fields : List Field} (h : ∀ field ∈ fields, field.RouteTyped) :
    List.Forall₂ HandlerBlock.Narrows (fields.filter fun field => !field.isJson)
      (filterBlocks fields) := by
  induction fields with
  | nil => exact .nil
  | cons field fields ih =>
    rw [List.forall_mem_cons] at h
    obtain ⟨htyped, h⟩ := h
    rw [filterBlocks, List.map_cons, List.flatMap_cons]
    cases hjson : field.isJson with
    | true =>
      rw [FilterEntry.guard?_of_isJson hjson, List.filter_cons_of_neg (by simp [hjson])]
      exact ih h
    | false =>
      obtain ⟨guard, hguard, hnarrows⟩ := htyped.exists_narrows hjson
      rw [hguard, List.filter_cons_of_pos (by simp [hjson])]
      exact .cons hnarrows (ih h)

/-! ## Main result -/

/-- **Agreement.** The code for updates has one block for each column but the key, and the code for
    filters one for each column but the key and JSON, both in column order. Each block reads the member of
    the column: it takes the value behind a pointer just where the member is one, makes a time just of the
    milliseconds of a temporal column, encodes nothing but maps, and a filter leaves out just the zero value
    of the member's type. The request for a filter has the members that are read. The request for an update
    has them for entities with a key; for others it is not declared, while there are blocks for all
    columns. -/
theorem handler_blocks_fit_requests (table : Table) (api : ApiConfig) (db : DbConfig)
    (structName : String) (storage : List Field) :
    let entity := buildEntity table (api.tableConfig db structName) api
    let document := RouteDocument.ofEntity entity api
    let updated := (entity.fieldsIn .update).filter fun field => !field.primaryKey
    let filtered := (entity.fieldsIn .filter).filter fun field => !field.isJson
    (∃ blocks, entity.gistText storage .updateMap = entity.updateText blocks ∧
      List.Forall₂ HandlerBlock.Updates updated blocks ∧
      (List.Forall₂ (HandlerBlock.HasMember .update
          (document.requestMembers (RouteAction.update.request entity.modelName))) updated blocks ↔
        entity.id.isSome = true ∨ updated = [])) ∧
    (∃ blocks, entity.gistText storage .filter = entity.filterText blocks ∧
      List.Forall₂ HandlerBlock.Narrows filtered blocks ∧
      List.Forall₂ (HandlerBlock.HasMember .filter
        (document.requestMembers (RouteAction.filter.request entity.modelName))) filtered blocks) ∧
    ((∃ exchange ∈ document.exchanges,
        exchange.request.name = RouteAction.update.request entity.modelName) ↔
      entity.id.isSome = true) := by
  intro entity document updated filtered
  have htyped (mode : Mode) : ∀ field ∈ entity.fieldsIn mode, field.RouteTyped :=
    fun field hfield => routeTyped_of_mem_fields rfl (List.mem_filter.mp hfield).1
  have hupdates : List.Forall₂ HandlerBlock.Updates updated (updateBlocks updated) :=
    forall₂_updates fun field hfield => htyped .update field (List.mem_filter.mp hfield).1
  have hnarrows : List.Forall₂ HandlerBlock.Narrows filtered (filterBlocks (entity.fieldsIn .filter)) :=
    forall₂_narrows (htyped .filter)
  refine ⟨⟨_, entity.gistText_updateMap storage, hupdates, ?_⟩,
    ⟨_, entity.gistText_filter storage, hnarrows, ?_⟩,
    (entity.exists_request_iff .update).trans entity.update_mem_actions⟩
  · rw [entity.requestMembers_update api]
    split
    case isTrue hkeyed =>
      refine iff_of_true ?_ (Or.inl hkeyed)
      refine forall₂_hasMember (hupdates.imp fun _ _ h => h.toReads) fun field hfield => ?_
      exact List.mem_map_of_mem (List.mem_filter.mp hfield).1
    case isFalse hkeyless =>
      rw [forall₂_hasMember_nil_iff hupdates.length_eq, or_iff_right hkeyless]
  · rw [entity.requestMembers_filter api]
    refine forall₂_hasMember (hnarrows.imp fun _ _ h => h.toReads) fun field hfield => ?_
    exact List.mem_append_right _ (List.mem_map_of_mem (List.mem_filter.mp hfield).1)

/-- The text of a message. -/
def messageColumn : Column where
  name := "message"
  ordinal := 1
  dataType := "varchar"
  columnType := "varchar(255)"
  nullable := false
  default := ""
  length := 255
  precision := 0
  scale := 0
  primaryKey := false
  autoIncrement := false
  unsigned := false
  comment := ""
  indexes := []
  uniqueIndexes := []

/-- A log of messages, without a key. -/
def logTable : Table where
  name := "log"
  comment := ""
  columns := [messageColumn]
  indexes := ⟨[], []⟩

/-- The code for the update of a log sets its column from a member of an update request, and there is no
    request that has it. -/
theorem log_updates_without_request :
    let entity := buildEntity logTable (ApiConfig.tableConfig {} {} "") {}
    let document := RouteDocument.ofEntity entity {}
    let updated := (entity.fieldsIn .update).filter fun field => !field.primaryKey
    entity.gistText [] .updateMap =
      entity.updateText [⟨none, .set, "message", ⟨"Message", false, false⟩⟩] ∧
    updated.map (·.rawName) = ["message"] ∧
    RouteAction.update.request entity.modelName = "UpdateLogReq" ∧
    "UpdateLogReq" ∉ document.declarations.map (·.name) ∧
    ¬ ∃ blocks, entity.gistText [] .updateMap = entity.updateText blocks ∧
      List.Forall₂ (HandlerBlock.HasMember .update (document.requestMembers "UpdateLogReq"))
        updated blocks := by
  intro entity document updated
  have hname : updated.map (·.rawName) = ["message"] := by decide +kernel
  refine ⟨by decide +kernel, hname, by decide +kernel, by decide +kernel, ?_⟩
  rintro ⟨blocks, -, hblocks⟩
  have hnone : document.requestMembers "UpdateLogReq" = [] := by decide +kernel
  rw [hnone, forall₂_hasMember_nil_iff hblocks.length_eq] at hblocks
  rw [hblocks] at hname
  cases hname

end TableCodegen
