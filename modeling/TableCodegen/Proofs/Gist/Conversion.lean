import TableCodegen.Document.Gist.Conversion
import TableCodegen.Proofs.Field.View

/-!
# Types of conversions

A conversion function pairs the fields of the route view with those of the storage view and picks a
conversion for each pair. The two views rewrite the type of a column apart from each other. When unsigned
types are turned off, every conversion still has the types that it needs.

Results:

* `Conversion.Typed`: the types between which a conversion makes sense.
* `Field.routeType_of_signed`, `Field.storedType_of_signed`: both views fix the width of a plain type in
  the same way.
* `Conversion.between_typed_of_type`, `Conversion.between_typed`: the conversion for the two views of a
  column fits their types.
* `convertMembers_buildEntity`: the members of a conversion function are made from the two views of each column
  that settings keep.
* `conversion_members_typed`: every member of a conversion function fits the types of its two sides, and starts
  from a zero literal of its own.
-/

namespace TableCodegen

/-- A conversion from a stored type to a type of the route view makes sense. -/
inductive Conversion.Typed : Conversion → MemberType → MemberType → Prop where
  | copy (type : MemberType) : Typed .copy type type
  | time : Typed .time (.pointer .time) (.scalar .int64)
  | deletion : Typed .deletion (.scalar .deletedAt) (.scalar .int64)
  | deletionPointer : Typed .deletion (.pointer .deletedAt) (.scalar .int64)
  | pointee (s : Scalar) : Typed .pointee (.pointer s) (.scalar s)
  | decoded : Typed .decoded (.scalar .storedJson) (.scalar .jsonMap)

/-! ## The storage view -/

namespace Field

variable {field : Field}

/-- The type of a column before its default is looked at becomes a pointer when there is a default. -/
theorem type_toStorage (hjson : field.isJson = false) :
    field.toStorage.type =
      if field.hasDefault then field.storedType.toPointer else field.storedType := by
  simp [toStorage, hjson]

/-- Stored JSON has an absent value of its own and needs no pointer. -/
theorem type_toStorage_of_isJson (hjson : field.isJson = true) :
    field.toStorage.type = .scalar .storedJson := by
  simp [toStorage, hjson, MemberType.toPointer, Scalar.isReference, Scalar.shape]

theorem storedType_of_unknown (h : field.type = .unknown) : field.storedType = .unknown := by
  simp [storedType, h, MemberType.stripUnsigned, MemberType.isOf, MemberType.scalar?]

theorem storedType_of_time (h : field.type = .scalar .time) :
    field.storedType =
      if field.rawName == deletedAtColumn then .scalar .deletedAt else .pointer .time := by
  simp [storedType, h, MemberType.stripUnsigned, MemberType.isOf, MemberType.scalar?, Scalar.signed]

/-! ## Types of fixed width -/

/-- The plain types of columns that are neither times nor unsigned. -/
def signedScalars : List Scalar :=
  [.bool, .int, .int32, .int64, .float32, .float64, .string, .bytes]

theorem mem_signedScalars {s : Scalar} (hs : s ∈ columnScalars) (hsigned : s.isUnsigned = false)
    (htime : s ≠ .time) : s ∈ signedScalars := by
  revert hs hsigned htime
  cases s <;> decide

/-- A plain type with a fixed width for a platform integer. -/
def fixedScalar (field : Field) (s : Scalar) : Scalar :=
  if s = .int then field.fixedInt else s

section Signed

variable {s : Scalar} (hs : s ∈ signedScalars)
include hs

theorem signed_of_mem_signedScalars : s.signed = s ∧ s ≠ .time ∧ s ≠ .uint := by
  revert hs
  cases s <;> decide

theorem fixedScalar_mem_routeScalars (field : Field) : field.fixedScalar s ∈ routeScalars := by
  rw [fixedScalar, fixedInt]
  revert hs
  cases field.enums.isEmpty <;> cases s <;> decide

/-- The storage view keeps a plain type, with a fixed width. -/
theorem storedType_of_signed (h : field.type = .scalar s) :
    field.storedType = .scalar (field.fixedScalar s) := by
  obtain ⟨hsigned, htime, -⟩ := signed_of_mem_signedScalars hs
  rw [storedType, h, fixedScalar, apply_ite MemberType.scalar]
  simp [MemberType.stripUnsigned, hsigned, MemberType.isOf, MemberType.scalar?, htime]

/-- The route view keeps it in the same way. -/
theorem routeType_of_signed (hjson : field.isJson = false) (h : field.type = .scalar s)
    (config : GenerationConfig) : field.routeType config = .scalar (field.fixedScalar s) := by
  obtain ⟨hsigned, htime, huint⟩ := signed_of_mem_signedScalars hs
  have hstrip : (if config.disableUnsigned then field.type.stripUnsigned else field.type) =
      .scalar s := by
    rw [h, MemberType.stripUnsigned, hsigned, ite_self]
  rw [routeType, hstrip, fixedScalar, apply_ite MemberType.scalar]
  simp [hjson, MemberType.isOf, MemberType.scalar?, htime, huint]

end Signed

end Field

/-! ## Conversions between the views of a field -/

namespace Conversion

section Between

variable {api store : Field} (hjson : api.isJson = false)
include hjson

theorem between_of_scalar {s : Scalar} (hs : s ∈ Field.routeScalars)
    (hstore : store.type = .scalar s) : between api store = copy := by
  have hdeleted : s ≠ .deletedAt ∧ s ≠ .time := by
    constructor <;> rintro rfl <;> revert hs <;> decide
  simp [between, hjson, hstore, MemberType.isOf, MemberType.scalar?, MemberType.isTime, hdeleted,
    MemberType.isPointer]

theorem between_of_pointer {s : Scalar} (hs : s ∈ Field.routeScalars)
    (hstore : store.type = .pointer s) : between api store = pointee := by
  have hdeleted : s ≠ .deletedAt ∧ s ≠ .time := by
    constructor <;> rintro rfl <;> revert hs <;> decide
  simp [between, hjson, hstore, MemberType.isOf, MemberType.scalar?, MemberType.isTime, hdeleted,
    MemberType.isPointer]

end Between

section Views

variable {field : Field} (config : GenerationConfig)

theorem between_typed_of_isJson (hjson : field.isJson = true) :
    (between (field.toApi config) field.toStorage).Typed field.toStorage.type
      (field.toApi config).type := by
  have hdecoded : between (field.toApi config) field.toStorage = decoded := by
    simp [between, hjson]
  rw [hdecoded, Field.type_toStorage_of_isJson hjson, Field.type_toApi,
    Field.routeType_of_isJson hjson]
  exact .decoded

variable (hjson : field.isJson = false)
include hjson

theorem between_typed_of_unknown (htype : field.type = .unknown) :
    (between (field.toApi config) field.toStorage).Typed field.toStorage.type
      (field.toApi config).type := by
  have hstored : field.toStorage.type = .unknown := by
    rw [Field.type_toStorage hjson, Field.storedType_of_unknown htype]
    exact ite_self _
  have hcopy : between (field.toApi config) field.toStorage = copy := by
    simp [between, hjson, hstored, MemberType.isOf, MemberType.scalar?, MemberType.isTime,
      MemberType.isPointer]
  rw [hcopy, hstored, Field.type_toApi, Field.routeType_of_unknown hjson htype]
  exact .copy _

/-- A time is stored behind a pointer, the time of a deletion by its own type. -/
theorem between_typed_of_time (htype : field.type = .scalar .time) :
    (between (field.toApi config) field.toStorage).Typed field.toStorage.type
      (field.toApi config).type := by
  rw [Field.type_toApi, Field.routeType_of_time hjson htype, between, Field.isJson_toApi, hjson,
    Field.type_toStorage hjson, Field.storedType_of_time htype]
  cases field.rawName == deletedAtColumn with
  | true =>
    cases field.hasDefault with
    | true => exact .deletionPointer
    | false => exact .deletion
  | false => cases field.hasDefault <;> exact .time

/-- A plain type is copied, or taken from behind the pointer that its default needs. -/
theorem between_typed_of_signed {s : Scalar} (hs : s ∈ Field.signedScalars)
    (htype : field.type = .scalar s) :
    (between (field.toApi config) field.toStorage).Typed field.toStorage.type
      (field.toApi config).type := by
  have hroute : field.fixedScalar s ∈ Field.routeScalars :=
    Field.fixedScalar_mem_routeScalars hs field
  have happi : (field.toApi config).isJson = false := by rw [Field.isJson_toApi, hjson]
  have hstored : field.toStorage.type = .scalar (field.fixedScalar s) ∨
      field.toStorage.type = .pointer (field.fixedScalar s) := by
    rw [Field.type_toStorage hjson, Field.storedType_of_signed hs htype, MemberType.toPointer]
    cases field.hasDefault <;> cases (field.fixedScalar s).isReference <;> simp
  rw [Field.type_toApi, Field.routeType_of_signed hs hjson htype]
  obtain hstored | hstored := hstored
  · rw [between_of_scalar happi hroute hstored, hstored]
    exact .copy _
  · rw [between_of_pointer happi hroute hstored, hstored]
    exact .pointee _

end Views

/-- The conversion for the two views of a column fits their types, unless the column has an unsigned type. -/
theorem between_typed_of_type {config : GenerationConfig} (hplain : config.nullability = .plain)
    (column : Column)
    (hsigned : ∀ s, (Field.ofColumn config column).type = .scalar s → s.isUnsigned = false) :
    (between ((Field.ofColumn config column).toApi config)
      (Field.ofColumn config column).toStorage).Typed (Field.ofColumn config column).toStorage.type
        ((Field.ofColumn config column).toApi config).type := by
  cases hjson : (Field.ofColumn config column).isJson with
  | true => exact between_typed_of_isJson config hjson
  | false =>
    obtain htype | ⟨s, hs, htype, -⟩ := Field.type_ofColumn hplain column
    · exact between_typed_of_unknown config hjson htype
    · by_cases htime : s = .time
      · exact between_typed_of_time config hjson (htime ▸ htype)
      · have hs : s ∈ Field.signedScalars := Field.mem_signedScalars hs (hsigned s htype) htime
        exact between_typed_of_signed config hjson hs htype

/-- When unsigned types are turned off, the conversion for the two views of a column fits their types. -/
theorem between_typed {config : GenerationConfig} (hplain : config.nullability = .plain)
    (hunsigned : config.disableUnsigned = true) (column : Column) :
    (between ((Field.ofColumn config column).toApi config)
      (Field.ofColumn config column).toStorage).Typed (Field.ofColumn config column).toStorage.type
        ((Field.ofColumn config column).toApi config).type := by
  refine between_typed_of_type hplain column fun s hs => ?_
  obtain htype | ⟨t, -, htype, hsigned⟩ := Field.type_ofColumn hplain column
  · cases htype.symm.trans hs
  · cases htype.symm.trans hs
    exact hsigned hunsigned

end Conversion

/-! ## Members of conversion functions -/

/-- A field of a known type has a zero value in the route view. -/
theorem Field.RouteTyped.zeroLiteral {field : Field} (h : field.RouteTyped)
    (hknown : field.type ≠ .unknown) :
    MemberType.ZeroLiteral field.type field.type.emptyLiteral := by
  cases hjson : field.isJson with
  | true =>
    rw [h.json hjson]
    exact .reference rfl
  | false =>
    obtain htype | ⟨s, hs, htype⟩ := h.plain hjson
    · exact absurd htype hknown
    · rw [htype]
      exact zeroLiteral_of_mem_routeScalars hs

/-- Only copies have to do with unknown types. -/
theorem Conversion.Typed.ne_unknown {conversion : Conversion} {stored api : MemberType}
    (h : conversion.Typed stored api) (hcopy : conversion ≠ .copy) : api ≠ .unknown := by
  cases h with
  | copy => exact absurd rfl hcopy
  | time | deletion | deletionPointer | pointee | decoded => nofun

/-- The member of a conversion function joins the two views of a column: the conversion fits their
    types, and unless it is a copy the member starts from the zero value of its type. -/
structure ConvertMember.Joins (config : GenerationConfig) (column : Column) (api stored : Field)
    (member : ConvertMember) : Prop where
  api_eq : api = (Field.ofColumn config column).toApi config
  stored_eq : stored = (Field.ofColumn config column).toStorage
  target : member.target = api.name
  source : member.source = stored.name
  typed : member.conversion.Typed stored.type api.type
  zero : member.conversion ≠ .copy → MemberType.ZeroLiteral api.type member.initialValue

/-- Unless it is copied, a member starts from the zero value of its type. -/
theorem ConvertMember.zeroLiteral_initialValue {api stored : Field} (hroute : api.RouteTyped)
    (htyped : (Conversion.between api stored).Typed stored.type api.type)
    (hcopy : Conversion.between api stored ≠ .copy) :
    MemberType.ZeroLiteral api.type (ofFields api stored).initialValue := by
  have hvalue : (ofFields api stored).initialValue = api.type.emptyLiteral := by
    rw [initialValue]
    split
    case h_1 hconversion => exact absurd hconversion hcopy
    case h_2 => rfl
  rw [hvalue]
  exact hroute.zeroLiteral (htyped.ne_unknown hcopy)

theorem ConvertMember.joins_ofFields {config : GenerationConfig} (hplain : config.nullability = .plain)
    (hunsigned : config.disableUnsigned = true) {column : Column} {api stored : Field}
    (hapi : api = (Field.ofColumn config column).toApi config)
    (hstored : stored = (Field.ofColumn config column).toStorage) :
    (ofFields api stored).Joins config column api stored := by
  have hroute : api.RouteTyped := hapi ▸ Field.routeTyped_toApi hplain column
  have htyped : (Conversion.between api stored).Typed stored.type api.type := by
    rw [hapi, hstored]
    exact Conversion.between_typed hplain hunsigned column
  exact ⟨hapi, hstored, rfl, rfl, htyped, zeroLiteral_initialValue hroute htyped⟩

/-- The storage view of a table's fields, column by column. -/
theorem storageFields_buildFields (config : GenerationConfig) (columns : List Column) :
    storageFields (buildFields config columns) =
      (columns.filter fun column => !config.isIgnored column.name).map fun column =>
        (Field.ofColumn config column).toStorage :=
  List.map_map

/-- The members of a conversion function, column by column. -/
theorem convertMembers_buildEntity (table : Table) (config : GenerationConfig) (api : ApiConfig) :
    (buildEntity table config api).convertMembers (storageFields (buildFields config table.columns)) =
      (table.columns.filter fun column => !config.isIgnored column.name).map fun column =>
        ConvertMember.ofFields ((Field.ofColumn config column).toApi config)
          (Field.ofColumn config column).toStorage := by
  rw [Entity.convertMembers, fields_buildEntity, storageFields_buildFields, List.zipWith_map,
    List.zipWith_self]

/-- **Conversions.** Without unsigned types, the two views and the conversion function have one entry for
    each column that settings keep, in column order, and the entries of a column fit together. -/
theorem conversion_members_typed (table : Table) (api : ApiConfig) (db : DbConfig)
    (structName : String) (hunsigned : api.disableUnsigned = true) :
    let config := api.tableConfig db structName
    let entity := buildEntity table config api
    let storage := storageFields (buildFields config table.columns)
    let columns := table.columns.filter fun column => !config.isIgnored column.name
    entity.fields.length = columns.length ∧ storage.length = columns.length ∧
    (entity.convertMembers storage).length = columns.length ∧
    ∀ (i : Nat) (column : Column), columns[i]? = some column →
      ∃ apiField storedField member, entity.fields[i]? = some apiField ∧
        storage[i]? = some storedField ∧ (entity.convertMembers storage)[i]? = some member ∧
        member.Joins config column apiField storedField := by
  intro config entity storage columns
  have hfields : entity.fields =
      columns.map fun column => (Field.ofColumn config column).toApi config :=
    fields_buildEntity table config api
  have hstorage : storage = columns.map fun column => (Field.ofColumn config column).toStorage :=
    storageFields_buildFields config table.columns
  rw [convertMembers_buildEntity, hfields, hstorage]
  refine ⟨List.length_map _, List.length_map _, List.length_map _, fun i column hcolumn => ?_⟩
  refine ⟨_, _, _, ?_, ?_, ?_, ConvertMember.joins_ofFields rfl hunsigned rfl rfl⟩
  all_goals rw [List.getElem?_map, hcolumn, Option.map_some]

/-- A counter that starts at one. -/
def visitsColumn : Column where
  name := "visits"
  ordinal := 1
  dataType := "int"
  columnType := "int"
  nullable := false
  default := "1"
  length := 0
  precision := 10
  scale := 0
  primaryKey := false
  autoIncrement := false
  unsigned := false
  comment := ""
  indexes := []
  uniqueIndexes := []

/-- The time at which a row was deleted. -/
def deletedColumn : Column :=
  { visitsColumn with name := "deleted_at", dataType := "datetime", default := "" }

/-- A table with a default, a deletion and JSON. -/
def visitTable : Table where
  name := "page"
  comment := ""
  columns := [visitsColumn, deletedColumn,
    { visitsColumn with name := "extra", dataType := "json", default := "" }]
  indexes := ⟨[], []⟩

/-- The conversions of a table whose columns need three different ones. -/
theorem visit_conversions_typed :
    let api : ApiConfig := {}
    let config := api.tableConfig {} ""
    let members := (buildEntity visitTable config api).convertMembers
      (storageFields (buildFields config visitTable.columns))
    api.disableUnsigned = true ∧
    members.map (·.conversion) = [.pointee, .deletion, .decoded] ∧
    ∃ apiField storedField member, members[1]? = some member ∧
      member.Joins config deletedColumn apiField storedField := by
  obtain ⟨-, -, -, hjoins⟩ := conversion_members_typed visitTable {} {} "" rfl
  obtain ⟨apiField, storedField, member, -, -, hmember, h⟩ :=
    hjoins 1 deletedColumn (by decide +kernel)
  exact ⟨rfl, by decide +kernel, apiField, storedField, member, hmember, h⟩

end TableCodegen
