import Mathlib.Data.List.Basic
import TableCodegen.Proofs.Document.Modes

/-!
# Allowed values in requests

The comment of a column can list allowed values, and the tag of its member in a request then has a rule
with them. The type of the member is decided apart from its tag: a list of values makes a pointer of a
narrow integer, so that a value that is left out is not taken for an allowed zero.

Results:

* `RouteMember.carriesOneOf_ofField_iff`: the rules of a member list values just if its column does.
* `Field.isIntegerPointer_of_narrow`, `Field.isIntegerPointer_iff_of_wide`: integers behind pointers.
* `isIntegerPointer_ofColumn_iff`: the columns whose listed values stand behind a pointer to an integer.
* `oneOf_members_integerPointer_iff`: the members of requests that have such a rule, and their types.

**Deviation.** The rule is written for every type of column, but a pointer follows from listed values only
for integers that are not wide: the members of other columns are no pointers to integers, and wide integers
are pointers only for other reasons.
-/

namespace TableCodegen

/-! ## Rules that list values -/

/-- The start of a rule that lists the allowed values. -/
def oneOfHead : List Char := "oneof=".toList

/-- One of the rules of the tag lists the allowed values. Rules are separated by commas. -/
def MemberTag.CarriesOneOf (tag : MemberTag) : Prop :=
  ∃ pair ∈ tag.toTags, pair.key = "validate" ∧
    ∃ rule ∈ pair.value.toList.splitOn ',', oneOfHead <+: rule

/-- What stands before the first separator starts the first piece. -/
theorem exists_splitOn_append {sep : Char} {before : List Char} (h : sep ∉ before) (rest : List Char) :
    ∃ piece pieces, (before ++ rest).splitOn sep = (before ++ piece) :: pieces := by
  induction before with
  | nil => exact List.exists_cons_of_ne_nil (List.splitOn_ne_nil sep rest)
  | cons c before ih =>
    rw [List.mem_cons, not_or] at h
    obtain ⟨piece, pieces, hsplit⟩ := ih h.2
    refine ⟨piece, pieces, ?_⟩
    rw [List.cons_append, List.splitOn_cons_eq_if_modifyHead, hsplit]
    simp [Ne.symm h.1]

/-- A list of values starts a rule of its own. -/
theorem exists_oneOf_rule (rule values : String) :
    ∃ piece ∈ (",".intercalate [rule, (Rule.oneOf values).toText]).toList.splitOn ',',
      oneOfHead <+: piece := by
  have htext : (",".intercalate [rule, (Rule.oneOf values).toText]).toList =
      rule.toList ++ ',' :: (oneOfHead ++ values.toList) := by
    simp [Rule.toText, oneOfHead]
  have hcomma : ',' ∉ oneOfHead := by decide
  obtain ⟨piece, pieces, hsplit⟩ := exists_splitOn_append hcomma values.toList
  rw [htext, List.splitOn_append_cons_self, hsplit]
  refine ⟨oneOfHead ++ piece, ?_, List.prefix_append _ _⟩
  simp

namespace MemberTag

theorem not_carriesOneOf_path (key : String) : ¬ (path key).CarriesOneOf := by
  simp [CarriesOneOf, toTags]

/-- The rules of a request member are those of its one tag for them, if it has rules. -/
theorem carriesOneOf_request {place : RequestPlace} {key : String} {presence : Presence} {rules : List Rule}
    {label : Option String} :
    (request place key presence rules label).CarriesOneOf ↔
      rules ≠ [] ∧ ∃ rule ∈ (",".intercalate (rules.map Rule.toText)).toList.splitOn ',', oneOfHead <+: rule := by
  have hplace : place.key ≠ "validate" := by cases place <;> decide
  have hlabel : "label" ≠ "validate" := by decide
  cases label <;> cases rules <;> simp [CarriesOneOf, toTags, clauseIf, hplace, hlabel]

/-- The rules of a column list values just if there are any. -/
theorem carriesOneOf_rulesOf_iff {place : RequestPlace} {key : String} {presence : Presence}
    {label : Option String} (required : Bool) (enums : String) :
    (request place key presence (RouteMember.rulesOf required enums) label).CarriesOneOf ↔ enums ≠ "" := by
  rw [carriesOneOf_request]
  by_cases henums : enums = ""
  · subst henums
    cases required <;> decide
  · have hempty : enums.isEmpty = false := by simpa using henums
    have hrules : RouteMember.rulesOf required enums =
        [if required then .required else .omitEmpty, .oneOf enums] := by
      cases required <;> simp [RouteMember.rulesOf, clauseIf, hempty]
    rw [hrules]
    simp only [ne_eq, henums, not_false_eq_true, iff_true]
    exact ⟨List.cons_ne_nil _ _, exists_oneOf_rule _ enums⟩

end MemberTag

/-- The members that are added to requests list no values. -/
theorem Entity.not_carriesOneOf_addedMembers {entity : Entity} {action : RouteAction} {member : RouteMember}
    (h : member ∈ entity.addedMembers action) : ¬ member.tag.CarriesOneOf := by
  have hpath (id : IdInfo) : ¬ id.pathMember.tag.CarriesOneOf :=
    MemberTag.not_carriesOneOf_path id.rawName
  have hbatch (id : IdInfo) : ¬ id.batchMember.tag.CarriesOneOf := by
    unfold IdInfo.batchMember
    rw [MemberTag.carriesOneOf_request]
    decide
  have hpage (place : RequestPlace) : ¬ (pageMember place).tag.CarriesOneOf := by
    unfold pageMember
    rw [MemberTag.carriesOneOf_request]
    decide +kernel
  have hsize (place : RequestPlace) : ¬ (pageSizeMember place).tag.CarriesOneOf := by
    unfold pageSizeMember
    rw [MemberTag.carriesOneOf_request]
    decide +kernel
  cases action with
  | create | update => cases h
  | batchUpdate | batchDelete =>
    obtain ⟨id, -, rfl⟩ := List.mem_map.mp h
    exact hbatch id
  | delete | get =>
    obtain ⟨id, -, rfl⟩ := List.mem_map.mp h
    exact hpath id
  | list | filter =>
    simp only [addedMembers, List.mem_cons, List.not_mem_nil, or_false] at h
    rcases h with rfl | rfl
    · exact hpage _
    · exact hsize _

/-- The member of a field that is not the key lists values just if the field has some. -/
theorem RouteMember.carriesOneOf_ofField_iff {mode : Mode} (hmode : mode ≠ .model) {field : Field}
    (hkey : field.primaryKey = false) :
    (ofField mode field).tag.CarriesOneOf ↔ field.enums ≠ "" := by
  have htag : (ofField mode field).tag =
      .request (if mode = .get then .query else .body) field.rawName
        (if mode.isWrite && field.isRequired then .mandatory else .optional)
        (rulesOf (mode.isWrite && field.isRequired) field.enums)
        (if field.label.isEmpty then none else some (quotable field.label)) := by
    simp [ofField, tagOf, hmode, hkey]
  rw [htag]
  exact MemberTag.carriesOneOf_rulesOf_iff _ _

/-- The path of a key lists no values. -/
theorem RouteMember.not_carriesOneOf_ofField_key {field : Field} (hkey : field.primaryKey = true) :
    ¬ (ofField .update field).tag.CarriesOneOf := by
  have htag : (ofField .update field).tag = .path field.rawName := by
    simp [ofField, tagOf, hkey]
  rw [htag]
  exact MemberTag.not_carriesOneOf_path _

/-- In requests, a key is listed in single updates alone. -/
theorem Column.eq_update_of_isListedIn {column : Column} {mode : Mode} (hkey : column.primaryKey = true)
    (hlisted : column.isListedIn mode = true) (hmode : mode ≠ .model) : mode = .update := by
  cases mode with
  | model => exact absurd rfl hmode
  | update => rfl
  | create | batchUpdate | get | filter => simp [isListedIn, hkey] at hlisted

/-! ## Integers behind pointers -/

/-- The member is an integer that can be left out. -/
def RouteMember.IsIntegerPointer (member : RouteMember) : Prop :=
  ∃ s : Scalar, s.isInteger = true ∧ member.type = .plain (.pointer s)

/-- The listed values of the column stand behind a pointer to an integer in requests of a mode: for integers
    that are not wide they always do; wide integers, times among them, have to be nullable, or where values
    are stored to have a default that says something. -/
def Column.EnumBehindPointer (column : Column) (mode : Mode) : Prop :=
  match TypeFamily.ofKeyword? (normalKeyword column.dataType) with
  | some .smallInteger => column.isBoolColumn = false
  | some .integer => True
  | some .bigInteger | some .temporal =>
    column.nullable = true ∨ (mode.isWrite = true ∧ column.default ≠ "" ∧ column.default ≠ "0")
  | _ => False

namespace Field

section Member

variable {field : Field} {mode : Mode} {s : Scalar}

theorem isIntegerPointer_iff (htype : field.type = .scalar s) :
    (RouteMember.ofField mode field).IsIntegerPointer ↔
      field.isPromoted mode = true ∧ s.isInteger = true := by
  unfold RouteMember.IsIntegerPointer RouteMember.ofField
  rw [typeIn_of_scalar htype]
  cases field.isPromoted mode <;> simp

theorem not_isIntegerPointer (hinteger : s.isInteger = false) (htype : field.type = .scalar s) :
    ¬ (RouteMember.ofField mode field).IsIntegerPointer := by
  rw [isIntegerPointer_iff htype, hinteger]
  simp

theorem not_isIntegerPointer_unknown (htype : field.type = .unknown) :
    ¬ (RouteMember.ofField mode field).IsIntegerPointer := by
  unfold RouteMember.IsIntegerPointer RouteMember.ofField
  rw [typeIn_of_unknown htype]
  simp

variable (hmode : mode ≠ .model) (hkey : field.primaryKey = false)
include hmode hkey

/-- An integer that is not wide stands behind a pointer when its values are listed. -/
theorem isIntegerPointer_of_narrow (henums : field.enums ≠ "") (hs : s = .int32 ∨ s = .uint32)
    (htype : field.type = .scalar s) : (RouteMember.ofField mode field).IsIntegerPointer := by
  have henum : field.hasIntEnum = true := by
    rcases hs with rfl | rfl <;> simp [hasIntEnum, htype, MemberType.scalar?, henums]
  have hreference : field.type.isReference = false := by
    rcases hs with rfl | rfl <;> rw [htype] <;> rfl
  have hinteger : s.isInteger = true := by
    rcases hs with rfl | rfl <;> rfl
  rw [isIntegerPointer_iff htype]
  refine ⟨?_, hinteger⟩
  simp [isPromoted, hmode, hkey, hreference, henum]

/-- Listed values do not count for a wide integer. -/
theorem isIntegerPointer_iff_of_wide (hs : s = .int64 ∨ s = .uint64) (htype : field.type = .scalar s) :
    (RouteMember.ofField mode field).IsIntegerPointer ↔
      field.nullable = true ∨ (mode.isWrite = true ∧ field.default ≠ "" ∧ field.default ≠ "0") := by
  have henum : field.hasIntEnum = false := by
    rcases hs with rfl | rfl <;> simp [hasIntEnum, htype, MemberType.scalar?]
  have hnarrow : field.isNarrow = false := by
    rcases hs with rfl | rfl <;> simp [isNarrow, htype, MemberType.scalar?]
  have hreference : field.type.isReference = false := by
    rcases hs with rfl | rfl <;> rw [htype] <;> rfl
  have hinteger : s.isInteger = true := by
    rcases hs with rfl | rfl <;> rfl
  have hdefault : field.isDefaultEmpty = true ↔ field.default = "" ∨ field.default = "0" := by
    unfold isDefaultEmpty
    rcases hs with rfl | rfl <;>
      simp [htype, MemberType.isDefaultEmpty, MemberType.scalar?, Scalar.isInteger]
  have hsays : field.isDefaultEmpty = false ↔ field.default ≠ "" ∧ field.default ≠ "0" := by
    rw [← Bool.not_eq_true, hdefault, not_or]
  rw [isIntegerPointer_iff htype, hinteger, ← hsays]
  cases hwrite : mode.isWrite <;>
    simp [isPromoted, hmode, hkey, hreference, hnarrow, henum, hwrite]

end Member

/-! ## Columns by their data types -/

section Family

variable {config : GenerationConfig} {column : Column} {family : TypeFamily}
  (hfamily : TypeFamily.ofKeyword? (normalKeyword column.dataType) = some family)
include hfamily

/-- Only texts can be JSON. -/
theorem isJson_ofColumn_of_family (htext : family ≠ .text) : (ofColumn config column).isJson = false := by
  rw [← Bool.not_eq_true]
  intro hjson
  have hkeyword : TypeFamily.ofKeyword? (normalKeyword column.dataType) = some .text := by
    have hdata : Text.asciiLower column.dataType = "json" := beq_iff_eq.mp hjson
    rw [normalKeyword_eq, hdata]
    decide +kernel
  exact htext (Option.some.inj (hfamily.symm.trans hkeyword))

variable (hplain : config.nullability = .plain)
include hplain

theorem type_ofColumn_of_family :
    (ofColumn config column).type = family.memberType
      { nullable := column.nullable
        unsigned := column.unsigned && !config.disableUnsigned
        isBool := config.enableBoolDetection && column.isBoolColumn } .plain := by
  simp only [ofColumn, hplain, mapType, hfamily]

/-- Small integers are not wide, and neither are platform integers whose values are listed. -/
theorem routeType_of_narrow (henums : enumsOf column.comment ≠ "")
    (h : (family = .smallInteger ∧ (config.enableBoolDetection && column.isBoolColumn) = false) ∨
      family = .integer) :
    ∃ s, (s = .int32 ∨ s = .uint32) ∧ (ofColumn config column).routeType config = .scalar s := by
  have hjson : (ofColumn config column).isJson = false := by
    apply isJson_ofColumn_of_family hfamily
    rcases h with ⟨rfl, -⟩ | rfl <;> decide
  have hlisted : (ofColumn config column).enums.isEmpty = false := by
    show (enumsOf column.comment).isEmpty = false
    simpa using henums
  have htype := type_ofColumn_of_family hfamily hplain
  unfold routeType
  rw [hjson, htype, fixedInt, fixedUint, hlisted]
  rcases h with ⟨rfl, hbool⟩ | rfl
  · rw [hbool]
    cases config.disableUnsigned <;> cases column.unsigned <;>
      simp [TypeFamily.memberType, MemberType.stripUnsigned, Scalar.signed, MemberType.isOf, MemberType.scalar?]
  · cases config.disableUnsigned <;> cases column.unsigned <;>
      simp [TypeFamily.memberType, MemberType.stripUnsigned, Scalar.signed, MemberType.isOf, MemberType.scalar?]

/-- Big integers and times are wide. -/
theorem routeType_of_wide (h : family = .bigInteger ∨ family = .temporal) :
    ∃ s, (s = .int64 ∨ s = .uint64) ∧ (ofColumn config column).routeType config = .scalar s := by
  have hjson : (ofColumn config column).isJson = false := by
    apply isJson_ofColumn_of_family hfamily
    rcases h with rfl | rfl <;> decide
  have htype := type_ofColumn_of_family hfamily hplain
  unfold routeType
  rw [hjson, htype]
  rcases h with rfl | rfl <;> cases config.disableUnsigned <;> cases column.unsigned <;>
    simp [TypeFamily.memberType, MemberType.stripUnsigned, Scalar.signed, MemberType.isOf, MemberType.scalar?]

/-- All other columns hold no integers. -/
theorem routeType_of_other
    (h : (family = .smallInteger ∧ (config.enableBoolDetection && column.isBoolColumn) = true) ∨
      family ∈ [TypeFamily.text, .single, .double, .binary]) :
    ∃ s, s.isInteger = false ∧ (ofColumn config column).routeType config = .scalar s := by
  have htype := type_ofColumn_of_family hfamily hplain
  unfold routeType
  rw [htype]
  cases (ofColumn config column).isJson with
  | true => exact ⟨.jsonMap, rfl, rfl⟩
  | false =>
    simp only [List.mem_cons, List.not_mem_nil, or_false] at h
    rcases h with ⟨rfl, hbool⟩ | rfl | rfl | rfl | rfl
    · rw [hbool]
      cases config.disableUnsigned <;>
        simp [TypeFamily.memberType, MemberType.stripUnsigned, Scalar.signed, MemberType.isOf, MemberType.scalar?,
          Scalar.isInteger]
    all_goals
      cases config.disableUnsigned <;>
        simp [TypeFamily.memberType, MemberType.stripUnsigned, Scalar.signed, MemberType.isOf, MemberType.scalar?,
          Scalar.isInteger]

end Family

end Field

section Columns

variable {config : GenerationConfig} (hplain : config.nullability = .plain)
  (hbool : config.enableBoolDetection = true) {mode : Mode} (hmode : mode ≠ .model) {column : Column}
  (hkey : column.primaryKey = false) (henums : enumsOf column.comment ≠ "")
include hplain hbool hmode hkey henums

/-- The listed values of a column stand behind a pointer to an integer just where `EnumBehindPointer` says
    so. -/
theorem isIntegerPointer_ofColumn_iff :
    (RouteMember.ofColumn config mode column).IsIntegerPointer ↔ column.EnumBehindPointer mode := by
  have hroute : ((Field.ofColumn config column).toApi config).type =
      (Field.ofColumn config column).routeType config := Field.type_toApi _ _
  have hapikey : ((Field.ofColumn config column).toApi config).primaryKey = false := by
    rw [primaryKey_toApi, hkey]
  have hlisted : ((Field.ofColumn config column).toApi config).enums ≠ "" := by
    rw [Field.enums_toApi]
    exact henums
  unfold RouteMember.ofColumn Column.EnumBehindPointer
  cases hfamily : TypeFamily.ofKeyword? (normalKeyword column.dataType) with
  | none =>
    have htype : (Field.ofColumn config column).type = .unknown := by
      simp only [Field.ofColumn, mapType, hfamily]
    have hunknown : ¬ (RouteMember.ofField mode
        ((Field.ofColumn config column).toApi config)).IsIntegerPointer := by
      cases hjson : (Field.ofColumn config column).isJson with
      | true =>
        apply Field.not_isIntegerPointer (s := .jsonMap) rfl
        rw [hroute, Field.routeType_of_isJson hjson]
      | false =>
        apply Field.not_isIntegerPointer_unknown
        rw [hroute, Field.routeType_of_unknown hjson htype]
    exact iff_of_false hunknown not_false
  | some family =>
    -- the members of the three kinds of columns
    have hnarrow (h : (family = .smallInteger ∧ (config.enableBoolDetection && column.isBoolColumn) = false) ∨
        family = .integer) : (RouteMember.ofField mode
          ((Field.ofColumn config column).toApi config)).IsIntegerPointer := by
      obtain ⟨s, hs, htype⟩ := Field.routeType_of_narrow hfamily hplain henums h
      exact Field.isIntegerPointer_of_narrow hmode hapikey hlisted hs (hroute.trans htype)
    have hwide (h : family = .bigInteger ∨ family = .temporal) : (RouteMember.ofField mode
        ((Field.ofColumn config column).toApi config)).IsIntegerPointer ↔
          column.nullable = true ∨ (mode.isWrite = true ∧ column.default ≠ "" ∧ column.default ≠ "0") := by
      obtain ⟨s, hs, htype⟩ := Field.routeType_of_wide hfamily hplain h
      rw [Field.isIntegerPointer_iff_of_wide hmode hapikey hs (hroute.trans htype), Field.nullable_toApi,
        Field.default_toApi]
      rfl
    have hother (h : (family = .smallInteger ∧ (config.enableBoolDetection && column.isBoolColumn) = true) ∨
        family ∈ [TypeFamily.text, .single, .double, .binary]) : ¬ (RouteMember.ofField mode
          ((Field.ofColumn config column).toApi config)).IsIntegerPointer := by
      obtain ⟨s, hs, htype⟩ := Field.routeType_of_other hfamily hplain h
      exact Field.not_isIntegerPointer hs (hroute.trans htype)
    rw [hbool, Bool.true_and] at hnarrow hother
    cases family with
    | smallInteger =>
      cases htruth : column.isBoolColumn with
      | true => exact iff_of_false (hother (Or.inl ⟨rfl, htruth⟩)) Bool.noConfusion
      | false => exact iff_of_true (hnarrow (Or.inl ⟨rfl, htruth⟩)) rfl
    | integer => exact iff_of_true (hnarrow (Or.inr rfl)) trivial
    | bigInteger => exact hwide (Or.inl rfl)
    | temporal => exact hwide (Or.inr rfl)
    | text | single | double | binary => exact iff_of_false (hother (Or.inr (by decide))) not_false

end Columns

/-! ## Main result -/

/-- **Allowed values.** A member of a request whose tag lists allowed values stands for a column of the
    request's list that is not the key. The member of such a column lists values just if the comment of the
    column does, and is then a pointer to an integer just if the column is as `EnumBehindPointer` says. -/
theorem oneOf_members_integerPointer_iff (table : Table) (api : ApiConfig) (db : DbConfig)
    (structName : String) :
    let config := api.tableConfig db structName
    let entity := buildEntity table config api
    let document := RouteDocument.ofEntity entity api
    (∀ action : RouteAction, ∀ member ∈ document.requestMembers (action.request entity.modelName),
      member.tag.CarriesOneOf → ∃ mode column, action.mode? = some mode ∧
        column ∈ table.columnsIn config mode ∧ column.primaryKey = false ∧
        member = .ofColumn config mode column) ∧
    ∀ mode, mode ≠ .model → ∀ column, column.primaryKey = false →
      ((RouteMember.ofColumn config mode column).tag.CarriesOneOf ↔ enumsOf column.comment ≠ "") ∧
      (enumsOf column.comment ≠ "" →
        ((RouteMember.ofColumn config mode column).IsIntegerPointer ↔ column.EnumBehindPointer mode)) := by
  intro config entity document
  have hplain : config.nullability = .plain := rfl
  have hrequest {action : RouteAction} {mode : Mode} (h : action.mode? = some mode) : mode ≠ .model := by
    rintro rfl
    cases action <;> cases h
  refine ⟨fun action member hmember honeOf => ?_, fun mode hmode column hkey => ⟨?_, fun henums => ?_⟩⟩
  · rw [Entity.requestMembers_ofEntity] at hmember
    obtain hadded | ⟨mode, hmode, hmember⟩ := entity.mem_requestOf hmember
    · exact absurd honeOf (Entity.not_carriesOneOf_addedMembers hadded)
    · rw [membersIn_buildEntity hplain, List.mem_map] at hmember
      obtain ⟨column, hcolumn, rfl⟩ := hmember
      refine ⟨mode, column, hmode, hcolumn, ?_, rfl⟩
      rw [← Bool.not_eq_true]
      intro hkey
      obtain ⟨-, -, hlisted⟩ := mem_columnsIn.mp hcolumn
      have hupdate : mode = .update := Column.eq_update_of_isListedIn hkey hlisted (hrequest hmode)
      rw [hupdate] at honeOf
      exact RouteMember.not_carriesOneOf_ofField_key ((primaryKey_toApi config column).trans hkey) honeOf
  · unfold RouteMember.ofColumn
    rw [RouteMember.carriesOneOf_ofField_iff hmode ((primaryKey_toApi config column).trans hkey),
      Field.enums_toApi]
    rfl
  · exact isIntegerPointer_ofColumn_iff hplain rfl hmode hkey henums

/-- A level that starts at zero, with its values in the comment. -/
def levelColumn : Column where
  name := "level"
  ordinal := 1
  dataType := "bigint"
  columnType := "bigint"
  nullable := false
  default := ""
  length := 0
  precision := 19
  scale := 0
  primaryKey := false
  autoIncrement := false
  unsigned := false
  comment := "级别（0 普通 1 高级）"
  indexes := []
  uniqueIndexes := []

/-- A table of levels. -/
def levelTable : Table where
  name := "member"
  comment := ""
  columns := [levelColumn]
  indexes := ⟨[], []⟩

/-- The values 0 and 1 of a wide integer are required, but a given zero cannot be told from a missing
    value. -/
theorem level_required_without_pointer :
    let config := ApiConfig.tableConfig {} {} ""
    let entity := buildEntity levelTable config {}
    let member := RouteMember.ofColumn config .create levelColumn
    member ∈ (RouteDocument.ofEntity entity {}).requestMembers (RouteAction.create.request entity.modelName) ∧
    levelColumn.primaryKey = false ∧ member.tag.CarriesOneOf ∧ ¬ member.IsIntegerPointer ∧
    member.type.toText = "int64" ∧
    member.tag.toText =
      "\x60json:\"level\" validate:\"required,oneof=0 1\" label:\"级别\"\x60" := by
  intro config entity member
  obtain ⟨-, hcolumns⟩ := oneOf_members_integerPointer_iff levelTable {} {} ""
  obtain ⟨hcarries, hpointer⟩ := hcolumns .create (by decide) levelColumn rfl
  have henums : enumsOf levelColumn.comment ≠ "" := by decide +kernel
  have hdocument : member ∈ (RouteDocument.ofEntity entity {}).requestMembers
      (RouteAction.create.request entity.modelName) := by
    decide +kernel
  have hbehind : ¬ levelColumn.EnumBehindPointer .create := by
    have hfamily : TypeFamily.ofKeyword? (normalKeyword levelColumn.dataType) = some .bigInteger := by
      decide +kernel
    unfold Column.EnumBehindPointer
    rw [hfamily]
    simp [levelColumn]
  exact ⟨hdocument, rfl, hcarries.mpr henums, fun h => hbehind ((hpointer henums).mp h), by decide +kernel,
    by decide +kernel⟩

end TableCodegen
