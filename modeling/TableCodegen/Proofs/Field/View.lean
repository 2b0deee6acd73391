import TableCodegen.Entity
import TableCodegen.Proofs.MemberType

/-!
# Types of fields in their views

The documents of a table show its columns in the route view and in the storage view. Both views rewrite
the type that the column has without wrappers. Here the types that can come out of the rewriting are
listed, so that statements about documents go by these types and not by the rewriting.

Results:

* `family_of_mem_buildFields`: the family of the wrappers in the model view.
* `Field.type_ofColumn`: the types of columns in the model view, without wrappers.
* `Field.toApi_eq`, `Field.routeType`: the route view changes the type and the comment alone.
* `Field.routeTyped_toApi`, `routeTyped_of_mem_fields`: the types of fields in the route view.
* `Field.typeIn_of_scalar`, `Field.RouteTyped.typeIn_of_isJson` and the facts after it: the types of
  fields in a mode.
-/

namespace TableCodegen

/-- The model settings that the documents of a table are built with: those of the route documents, with
    the structure name of the table. -/
def ApiConfig.tableConfig (api : ApiConfig) (db : DbConfig) (structName : String) :
    GenerationConfig :=
  { api.generationConfig db with structName := structName }

/-- The facts about a column that decide its type under the settings. -/
def Column.traits (config : GenerationConfig) (column : Column) : TypeTraits where
  nullable := column.nullable
  unsigned := column.unsigned && !config.disableUnsigned
  isBool := config.enableBoolDetection && column.isBoolColumn

namespace Field

/-- The data type of the column is a temporal keyword. -/
def IsTemporal (field : Field) : Prop :=
  TypeFamily.ofKeyword? (normalKeyword field.dataType) = some .temporal

/-! ## The model view -/

theorem type_ofColumn_eq (config : GenerationConfig) (column : Column) :
    (ofColumn config column).type =
      mapType column.dataType (column.traits config) config.nullability := by
  simp only [ofColumn, Column.traits]

/-- A column has no wrapper but one of the chosen family. -/
theorem family_of_wrapper?_ofColumn {config : GenerationConfig} {column : Column} {policy : NullPolicy}
    (h : (ofColumn config column).type.wrapper? = some policy) : policy = config.nullability := by
  rw [type_ofColumn_eq] at h
  exact (wrapper?_mapType_eq_some_iff.mp h).1

section ModelView

variable {config : GenerationConfig} (hplain : config.nullability = .plain) (column : Column)
include hplain

/-- A column without wrappers has a plain type or an unknown one, and an unsigned type only if the
    settings keep such types. -/
theorem type_ofColumn :
    (ofColumn config column).type = .unknown ∨
      ∃ s ∈ columnScalars, (ofColumn config column).type = .scalar s ∧
        (config.disableUnsigned = true → s.isUnsigned = false) := by
  simp only [ofColumn, hplain]
  refine (mapType_plain _ _).imp_right ?_
  rintro ⟨s, hs, htype, hunsigned⟩
  exact ⟨s, hs, htype, fun h => hunsigned (by simp [h])⟩

theorem type_ofColumn_of_isJson (hjson : (ofColumn config column).isJson = true) :
    (ofColumn config column).type = .scalar .string := by
  simp only [ofColumn, hplain]
  exact mapType_json (beq_iff_eq.mp hjson) _

theorem isTimeField_ofColumn :
    (ofColumn config column).isTimeField = true ↔ (ofColumn config column).type = .scalar .time := by
  have hsource : (ofColumn config column).sourceType = (ofColumn config column).type := rfl
  rw [isTimeField, hsource]
  obtain htype | ⟨s, -, htype, -⟩ := type_ofColumn hplain column
  · rw [htype]
    simp [MemberType.isTime]
  · rw [htype]
    cases s <;> simp [MemberType.isTime]

theorem isTemporal_ofColumn :
    (ofColumn config column).IsTemporal ↔ (ofColumn config column).type = .scalar .time := by
  have hkeyword : normalKeyword (ofColumn config column).dataType = normalKeyword column.dataType :=
    normalKeyword_asciiLower column.dataType
  rw [IsTemporal, hkeyword]
  simp only [ofColumn, hplain]
  exact (mapType_plain_eq_time_iff _ _).symm

end ModelView

/-! ## The route view -/

/-- The type of a field in the route view. -/
def routeType (config : GenerationConfig) (field : Field) : MemberType :=
  let type := if config.disableUnsigned then field.type.stripUnsigned else field.type
  if field.isJson then .scalar .jsonMap
  else if type.isOf .time then .scalar .int64
  else if type.isOf .int then .scalar field.fixedInt
  else if type.isOf .uint then .scalar field.fixedUint
  else type

/-- A type that is `s` or a pointer to it is nothing else. -/
theorem isOf_eq_false {s t : Scalar} {type : MemberType} (h : type.isOf s = true) (hst : s ≠ t) :
    type.isOf t = false := by
  simp_all [MemberType.isOf]

/-- The route view changes the type and the comment of a field, and nothing else. -/
theorem toApi_eq (config : GenerationConfig) (field : Field) :
    field.toApi config =
      { field with type := field.routeType config, comment := (field.toApi config).comment } := by
  simp only [toApi, routeType]
  generalize (if config.disableUnsigned then field.type.stripUnsigned else field.type) = type
  by_cases hjson : field.isJson = true
  · simp [hjson]
  · by_cases hbool : (type.isOf .bool && field.hasBoolEnum) = true
    · have htype : type.isOf .bool = true := (Bool.and_eq_true _ _ ▸ hbool).1
      simp [hjson, hbool, isOf_eq_false htype]
    · simp only [hjson, hbool]
      by_cases htime : type.isOf .time = true
      · simp [htime]
      by_cases hint : type.isOf .int = true
      · simp [htime, hint]
      by_cases huint : type.isOf .uint = true <;> simp [htime, hint, huint]

section RouteView

variable (config : GenerationConfig) (field : Field)

@[simp] theorem type_toApi : (field.toApi config).type = field.routeType config := by
  rw [toApi_eq]

@[simp] theorem name_toApi : (field.toApi config).name = field.name := by
  rw [toApi_eq]

@[simp] theorem rawName_toApi : (field.toApi config).rawName = field.rawName := by
  rw [toApi_eq]

@[simp] theorem nullable_toApi : (field.toApi config).nullable = field.nullable := by
  rw [toApi_eq]

@[simp] theorem default_toApi : (field.toApi config).default = field.default := by
  rw [toApi_eq]

@[simp] theorem enums_toApi : (field.toApi config).enums = field.enums := by
  rw [toApi_eq]

@[simp] theorem isJson_toApi : (field.toApi config).isJson = field.isJson := by
  rw [toApi_eq]
  rfl

@[simp] theorem isTimeField_toApi : (field.toApi config).isTimeField = field.isTimeField := by
  rw [toApi_eq]
  rfl

@[simp] theorem isTemporal_toApi : (field.toApi config).IsTemporal ↔ field.IsTemporal := by
  rw [toApi_eq]
  rfl

end RouteView

/-- The plain types that fields have in the route view. -/
def routeScalars : List Scalar :=
  [.bool, .int32, .int64, .uint32, .uint64, .float32, .float64, .string, .bytes]

/-- The plain types of the route view have zero values, and `emptyLiteral` writes them. -/
theorem zeroLiteral_of_mem_routeScalars {s : Scalar} (hs : s ∈ routeScalars) :
    MemberType.ZeroLiteral (.scalar s) (MemberType.scalar s).emptyLiteral := by
  have htime : s ≠ .time := by
    rintro rfl
    revert hs
    decide
  exact zeroLiteral_emptyLiteral htime

/-- The types that a field can have in the route view: JSON is a map, times are wide integers, and all
    other columns have a plain type or an unknown one. -/
structure RouteTyped (field : Field) : Prop where
  json : field.isJson = true → field.type = .scalar .jsonMap
  plain : field.isJson = false → field.type = .unknown ∨ ∃ s ∈ routeScalars, field.type = .scalar s
  time : field.isTimeField = true → field.isJson = false ∧ field.type = .scalar .int64
  temporal : field.isTimeField = true ↔ field.IsTemporal

theorem routeType_of_isJson {field : Field} (h : field.isJson = true) (config : GenerationConfig) :
    field.routeType config = .scalar .jsonMap := by
  rw [routeType]
  simp [h]

theorem routeType_of_unknown {field : Field} (hjson : field.isJson = false)
    (h : field.type = .unknown) (config : GenerationConfig) :
    field.routeType config = .unknown := by
  simp [routeType, hjson, h, MemberType.stripUnsigned, MemberType.isOf, MemberType.scalar?]

theorem routeType_of_time {field : Field} (hjson : field.isJson = false)
    (h : field.type = .scalar .time) (config : GenerationConfig) :
    field.routeType config = .scalar .int64 := by
  simp [routeType, hjson, h, MemberType.stripUnsigned, MemberType.isOf, MemberType.scalar?,
    Scalar.signed]

/-- A plain type of a column becomes a plain type of the route view. -/
theorem routeType_of_scalar {field : Field} (hjson : field.isJson = false) {s : Scalar}
    (hs : s ∈ columnScalars) (h : field.type = .scalar s) (config : GenerationConfig) :
    ∃ t ∈ routeScalars, field.routeType config = .scalar t := by
  simp only [routeType, hjson, h, MemberType.stripUnsigned, MemberType.isOf, MemberType.scalar?,
    fixedInt, fixedUint, routeScalars]
  simp only [columnScalars, List.mem_cons, List.not_mem_nil, or_false] at hs
  rcases hs with rfl | rfl | rfl | rfl | rfl | rfl | rfl | rfl | rfl | rfl | rfl | rfl <;>
    cases config.disableUnsigned <;> cases field.enums.isEmpty <;> simp [Scalar.signed]

theorem routeTyped_toApi {config : GenerationConfig} (hplain : config.nullability = .plain)
    (column : Column) : ((ofColumn config column).toApi config).RouteTyped := by
  refine ⟨?_, ?_, ?_, ?_⟩
  · rw [isJson_toApi, type_toApi]
    exact fun hjson => routeType_of_isJson hjson config
  · rw [isJson_toApi, type_toApi]
    intro hjson
    obtain htype | ⟨s, hs, htype, -⟩ := type_ofColumn hplain column
    · exact Or.inl (routeType_of_unknown hjson htype config)
    · exact Or.inr (routeType_of_scalar hjson hs htype config)
  · rw [isJson_toApi, type_toApi, isTimeField_toApi, isTimeField_ofColumn hplain]
    intro htime
    have hjson : (ofColumn config column).isJson = false := by
      rw [← Bool.not_eq_true]
      intro hjson
      rw [type_ofColumn_of_isJson hplain column hjson] at htime
      cases htime
    exact ⟨hjson, routeType_of_time hjson htime config⟩
  · rw [isTimeField_toApi, isTemporal_toApi, isTimeField_ofColumn hplain,
      isTemporal_ofColumn hplain]

/-! ## Types in a mode -/

/-- A type that has an absent value of its own is never behind a pointer. -/
theorem isPromoted_of_isReference {field : Field} (h : field.type.isReference = true) (mode : Mode) :
    field.isPromoted mode = false := by
  simp [isPromoted, h]

/-- A plain type appears behind a pointer exactly where the field is promoted. -/
theorem typeIn_of_scalar {field : Field} {s : Scalar} (h : field.type = .scalar s) (mode : Mode) :
    field.typeIn mode = if field.isPromoted mode then .pointer s else .scalar s := by
  rw [typeIn, h]
  by_cases hreference : s.isReference = true
  · have htype : field.type.isReference = true := h ▸ hreference
    simp [isPromoted_of_isReference htype]
  · simp [MemberType.toPointer, hreference]

theorem typeIn_of_unknown {field : Field} (h : field.type = .unknown) (mode : Mode) :
    field.typeIn mode = .unknown := by
  rw [typeIn, h]
  exact ite_self _

theorem isPointer_typeIn_of_scalar {field : Field} {s : Scalar} (h : field.type = .scalar s)
    (mode : Mode) : (field.typeIn mode).isPointer = field.isPromoted mode := by
  rw [typeIn_of_scalar h]
  cases field.isPromoted mode <;> rfl

theorem typeIn_eq_or {field : Field} {s : Scalar} (h : field.type = .scalar s) (mode : Mode) :
    field.typeIn mode = .scalar s ∨ field.typeIn mode = .pointer s := by
  rw [typeIn_of_scalar h]
  cases field.isPromoted mode <;> simp

namespace RouteTyped

variable {field : Field} (h : field.RouteTyped) (mode : Mode)
include h

/-- JSON is decoded in every mode. -/
theorem typeIn_of_isJson (hjson : field.isJson = true) :
    field.typeIn mode = .scalar .jsonMap := by
  have htype : field.type = .scalar .jsonMap := h.json hjson
  have hreference : field.type.isReference = true := by
    rw [htype]
    rfl
  rw [typeIn_of_scalar htype, isPromoted_of_isReference hreference]
  rfl

/-- Times are numbers of milliseconds in every mode. -/
theorem typeIn_of_isTimeField (htime : field.isTimeField = true) :
    field.typeIn mode = .scalar .int64 ∨ field.typeIn mode = .pointer .int64 :=
  typeIn_eq_or (h.time htime).2 mode

theorem typeIn_of_not_isJson (hjson : field.isJson = false) :
    field.typeIn mode = .unknown ∨
      ∃ s ∈ routeScalars, field.typeIn mode = .scalar s ∨ field.typeIn mode = .pointer s := by
  obtain htype | ⟨s, hs, htype⟩ := h.plain hjson
  · exact Or.inl (typeIn_of_unknown htype mode)
  · exact Or.inr ⟨s, hs, typeIn_eq_or htype mode⟩

/-- Only JSON is decoded. -/
theorem typeIn_ne_jsonMap (hjson : field.isJson = false) : field.typeIn mode ≠ .scalar .jsonMap := by
  intro hmap
  obtain htype | ⟨s, hs, htype | htype⟩ := h.typeIn_of_not_isJson mode hjson
  · cases htype.symm.trans hmap
  · cases htype.symm.trans hmap
    revert hs
    decide
  · cases htype.symm.trans hmap

end RouteTyped

end Field

theorem family_of_mem_buildFields {config : GenerationConfig} {columns : List Column} {field : Field}
    (hfield : field ∈ buildFields config columns) {policy : NullPolicy}
    (h : field.type.wrapper? = some policy) : policy = config.nullability := by
  obtain ⟨column, -, rfl⟩ := List.mem_map.mp hfield
  exact Field.family_of_wrapper?_ofColumn h

/-! ## The fields of an entity -/

/-- The fields of an entity are the route views of the columns that settings keep. -/
theorem fields_buildEntity (table : Table) (config : GenerationConfig) (api : ApiConfig) :
    (buildEntity table config api).fields =
      (table.columns.filter fun column => !config.isIgnored column.name).map fun column =>
        (Field.ofColumn config column).toApi config := by
  rw [buildEntity, apiFields, buildFields, List.map_map]
  rfl

theorem routeTyped_of_mem_fields {table : Table} {config : GenerationConfig} {api : ApiConfig}
    (hplain : config.nullability = .plain) {field : Field}
    (h : field ∈ (buildEntity table config api).fields) : field.RouteTyped := by
  rw [fields_buildEntity, List.mem_map] at h
  obtain ⟨column, -, rfl⟩ := h
  exact Field.routeTyped_toApi hplain column

end TableCodegen
