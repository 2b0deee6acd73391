import TableCodegen.Proofs.Gist.Conversion

/-!
# Integers in the two views

Settings can keep the unsigned types of columns. The route view then has them too, but the storage view
turns every integer into a signed one, whatever the settings say. Both views fix the same width. So the
conversions of unsigned integer columns, and of no others, do not fit their types.

Results:

* `memberType_integer`: the columns that have integer types, and those that have unsigned ones.
* `Field.routeType_of_integer`, `Field.storedType_of_integer`: an integer in the two views.
* `Conversion.not_typed_of_unsigned`: no conversion makes an unsigned integer of a signed one.
* `conversion_typed_iff_signed`: the integers and the conversions of a table whose unsigned types are kept.
-/

namespace TableCodegen

/-! ## Integer columns -/

/-- The column holds integers: its keyword stands for integers, and they do not stand for truth values. -/
def Column.IsInteger (column : Column) : Prop :=
  ∃ family, TypeFamily.ofKeyword? (normalKeyword column.dataType) = some family ∧
    family.isInteger = true ∧ (family = .smallInteger → column.isBoolColumn = false)

/-- The type of a family is an integer just where the family says so, but for truth values. Unsigned
    columns have unsigned integers. -/
theorem memberType_integer (family : TypeFamily) (traits : TypeTraits) :
    ∃ s, family.memberType traits .plain = .scalar s ∧
      (s.isInteger = true ↔
        family.isInteger = true ∧ (family = .smallInteger → traits.isBool = false)) ∧
      (s.isInteger = true → s.isUnsigned = traits.unsigned) := by
  obtain ⟨nullable, unsigned, isBool⟩ := traits
  simp only [TypeFamily.memberType, wrapNullable_plain]
  cases family with
  | smallInteger =>
    cases isBool <;> cases unsigned <;>
      exact ⟨_, rfl, by simp [Scalar.isInteger, TypeFamily.isInteger],
        by simp [Scalar.isInteger, Scalar.isUnsigned]⟩
  | integer | bigInteger =>
    cases unsigned <;>
      exact ⟨_, rfl, by simp [Scalar.isInteger, TypeFamily.isInteger], by simp [Scalar.isUnsigned]⟩
  | text | temporal | single | double | binary =>
    exact ⟨_, rfl, by simp [Scalar.isInteger, TypeFamily.isInteger], by simp [Scalar.isInteger]⟩

theorem Scalar.isInteger_of_isUnsigned {s : Scalar} (h : s.isUnsigned = true) : s.isInteger = true := by
  cases s with
  | uint | uint32 | uint64 => rfl
  | _ => cases h

namespace Field

section ModelView

variable {config : GenerationConfig} (hplain : config.nullability = .plain)
  (hbool : config.enableBoolDetection = true) (hkept : config.disableUnsigned = false) {column : Column}
include hplain hbool hkept

/-- An integer column has an integer type, and the type has a sign just if the column has one. -/
theorem type_ofColumn_of_isInteger (h : column.IsInteger) :
    ∃ s, s.isInteger = true ∧ (ofColumn config column).type = .scalar s ∧
      s.isUnsigned = column.unsigned := by
  obtain ⟨family, hfamily, hinteger, hsmall⟩ := h
  simp only [ofColumn, hplain, mapType, hfamily, hbool, hkept, Bool.true_and, Bool.not_false,
    Bool.and_true]
  obtain ⟨s, htype, hs, hunsigned⟩ := memberType_integer family
    { nullable := column.nullable, unsigned := column.unsigned, isBool := column.isBoolColumn }
  have hs : s.isInteger = true := hs.mpr ⟨hinteger, hsmall⟩
  exact ⟨s, hs, htype, hunsigned hs⟩

/-- All other columns have no unsigned type. -/
theorem isUnsigned_of_type_ofColumn (h : ¬ (column.IsInteger ∧ column.unsigned = true)) {s : Scalar}
    (hs : (ofColumn config column).type = .scalar s) : s.isUnsigned = false := by
  rw [← Bool.not_eq_true]
  intro hunsigned
  have hinteger : s.isInteger = true := Scalar.isInteger_of_isUnsigned hunsigned
  simp only [ofColumn, hplain, mapType, hbool, hkept, Bool.true_and, Bool.not_false,
    Bool.and_true] at hs
  cases hfamily : TypeFamily.ofKeyword? (normalKeyword column.dataType) with
  | none =>
    rw [hfamily] at hs
    cases hs
  | some family =>
    rw [hfamily] at hs
    obtain ⟨t, htype, ht, htrait⟩ := memberType_integer family
      { nullable := column.nullable, unsigned := column.unsigned, isBool := column.isBoolColumn }
    cases htype.symm.trans hs
    exact h ⟨⟨family, hfamily, ht.mp hinteger⟩, (htrait hinteger).symm.trans hunsigned⟩

end ModelView

/-! ## Integers of fixed width -/

/-- An integer of a fixed width for one that depends on the platform. -/
def fixedInteger (field : Field) : Scalar → Scalar
  | .int => field.fixedInt
  | .uint => field.fixedUint
  | s => s

section Integer

variable {field : Field} {s : Scalar} (hs : s.isInteger = true)
include hs

theorem isInteger_fixedInteger (field : Field) :
    (field.fixedInteger s).isInteger = true ∧
      (field.fixedInteger s).isUnsigned = s.isUnsigned ∧
      (field.fixedInteger s).signed ∈ routeScalars := by
  rw [← Bool.not_eq_false] at hs
  cases s with
  | int | uint =>
    rw [fixedInteger]
    simp only [fixedInt, fixedUint]
    cases field.enums.isEmpty <;> decide
  | int32 | int64 | uint32 | uint64 => exact ⟨rfl, rfl, by simp [fixedInteger, Scalar.signed, routeScalars]⟩
  | _ => exact absurd rfl hs

/-- Settings that keep unsigned types keep the sign of an integer in the route view. -/
theorem routeType_of_integer {config : GenerationConfig} (hkept : config.disableUnsigned = false)
    (hjson : field.isJson = false) (h : field.type = .scalar s) :
    field.routeType config = .scalar (field.fixedInteger s) := by
  simp only [routeType, hkept, hjson, h, MemberType.isOf, MemberType.scalar?]
  cases s with
  | int | uint | int32 | int64 | uint32 | uint64 => rfl
  | _ => cases hs

/-- The storage view makes every integer a signed one of the same width. -/
theorem storedType_of_integer (h : field.type = .scalar s) :
    field.storedType = .scalar (field.fixedInteger s).signed := by
  have huint : field.fixedUint.signed = field.fixedInt := by
    rw [fixedUint, fixedInt]
    cases field.enums.isEmpty <;> rfl
  have hint : field.fixedInt.signed = field.fixedInt := by
    rw [fixedInt]
    cases field.enums.isEmpty <;> rfl
  simp only [storedType, h, MemberType.stripUnsigned, MemberType.isOf, MemberType.scalar?]
  cases s with
  | int => exact congrArg MemberType.scalar hint.symm
  | uint => exact congrArg MemberType.scalar huint.symm
  | int32 | int64 | uint32 | uint64 => rfl
  | _ => cases hs

end Integer

end Field

/-! ## Conversions of integers -/

/-- The two views of a column hold integers of one width: the route view has the sign that the column
    has, the storage view has a signed integer, behind a pointer if the column has a default. -/
def SameWidth (column : Column) (stored api : MemberType) : Prop :=
  ∃ s : Scalar, s.isInteger = true ∧ s.isUnsigned = column.unsigned ∧ api = .scalar s ∧
    (stored = .scalar s.signed ∨ stored = .pointer s.signed)

/-- A conversion between two integers of one width needs the same sign. -/
theorem Conversion.not_typed_of_unsigned {conversion : Conversion} {s : Scalar} {stored : MemberType}
    (hs : s.isUnsigned = true) (hstored : stored = .scalar s.signed ∨ stored = .pointer s.signed) :
    ¬ conversion.Typed stored (.scalar s) := by
  intro htyped
  cases s with
  | uint | uint32 | uint64 => rcases hstored with rfl | rfl <;> cases htyped
  | _ => cases hs

section Views

variable {config : GenerationConfig} (hplain : config.nullability = .plain)
  (hbool : config.enableBoolDetection = true) (hkept : config.disableUnsigned = false) {column : Column}
include hplain hbool hkept

theorem sameWidth_views (h : column.IsInteger) :
    SameWidth column (Field.ofColumn config column).toStorage.type
      ((Field.ofColumn config column).toApi config).type := by
  obtain ⟨s, hs, htype, hsign⟩ := Field.type_ofColumn_of_isInteger hplain hbool hkept h
  have hjson : (Field.ofColumn config column).isJson = false := by
    rw [← Bool.not_eq_true]
    intro hjson
    cases htype.symm.trans (Field.type_ofColumn_of_isJson hplain column hjson)
    cases hs
  obtain ⟨hinteger, hunsigned, -⟩ := Field.isInteger_fixedInteger hs (Field.ofColumn config column)
  refine ⟨(Field.ofColumn config column).fixedInteger s, hinteger, hunsigned.trans hsign, ?_, ?_⟩
  · rw [Field.type_toApi, Field.routeType_of_integer hs hkept hjson htype]
  · rw [Field.type_toStorage hjson, Field.storedType_of_integer hs htype, MemberType.toPointer]
    cases (Field.ofColumn config column).hasDefault <;>
      cases ((Field.ofColumn config column).fixedInteger s).signed.isReference <;> simp

/-- The conversion for the two views of a column fits their types unless the column is an unsigned
    integer. -/
theorem Conversion.between_typed_iff :
    (between ((Field.ofColumn config column).toApi config)
      (Field.ofColumn config column).toStorage).Typed (Field.ofColumn config column).toStorage.type
        ((Field.ofColumn config column).toApi config).type ↔
      ¬ (column.IsInteger ∧ column.unsigned = true) := by
  constructor
  · rintro htyped ⟨hinteger, hunsigned⟩
    obtain ⟨s, -, hs, hapi, hstored⟩ := sameWidth_views hplain hbool hkept hinteger
    rw [hapi] at htyped
    exact not_typed_of_unsigned (hs.trans hunsigned) hstored htyped
  · intro h
    exact between_typed_of_type hplain column fun s hs =>
      Field.isUnsigned_of_type_ofColumn hplain hbool hkept h hs

end Views

/-! ## Main result -/

/-- **Signs.** When unsigned types are kept, the two views and the conversion function have one entry for
    each column that settings keep, in column order. The two views of an integer column have one width,
    but only the route view keeps the sign of the column; so the conversion of a column fits its types
    unless the column is an unsigned integer. -/
theorem conversion_typed_iff_signed (table : Table) (api : ApiConfig) (db : DbConfig)
    (structName : String) (hkept : api.disableUnsigned = false) :
    let config := api.tableConfig db structName
    let entity := buildEntity table config api
    let storage := storageFields (buildFields config table.columns)
    let columns := table.columns.filter fun column => !config.isIgnored column.name
    entity.fields.length = columns.length ∧ storage.length = columns.length ∧
    (entity.convertMembers storage).length = columns.length ∧
    ∀ (i : Nat) (column : Column), columns[i]? = some column →
      ∃ apiField storedField, entity.fields[i]? = some apiField ∧ storage[i]? = some storedField ∧
        (entity.convertMembers storage)[i]? = some (.ofFields apiField storedField) ∧
        (column.IsInteger → SameWidth column storedField.type apiField.type) ∧
        ((Conversion.between apiField storedField).Typed storedField.type apiField.type ↔
          ¬ (column.IsInteger ∧ column.unsigned = true)) := by
  intro config entity storage columns
  have hfields : entity.fields =
      columns.map fun column => (Field.ofColumn config column).toApi config :=
    fields_buildEntity table config api
  have hstorage : storage = columns.map fun column => (Field.ofColumn config column).toStorage :=
    storageFields_buildFields config table.columns
  have hkeeps : config.disableUnsigned = false := hkept
  rw [convertMembers_buildEntity, hfields, hstorage]
  refine ⟨List.length_map _, List.length_map _, List.length_map _, fun i column hcolumn => ?_⟩
  refine ⟨_, _, ?_, ?_, ?_, sameWidth_views rfl rfl hkeeps, Conversion.between_typed_iff rfl rfl hkeeps⟩
  all_goals rw [List.getElem?_map, hcolumn, Option.map_some]

/-- A counter without a sign. -/
def countColumn : Column :=
  { visitsColumn with name := "count", columnType := "int unsigned", default := "", unsigned := true }

/-- A table that counts without a sign. -/
def countTable : Table where
  name := "page"
  comment := ""
  columns := [countColumn, { countColumn with name := "likes", default := "1" }]
  indexes := ⟨[], []⟩

/-- The settings that keep unsigned types. -/
def unsignedApi : ApiConfig where
  disableUnsigned := false

/-- An unsigned column is copied from a signed member, and one with a default from behind a pointer to a
    signed member. -/
theorem count_copied_from_signed :
    let config := unsignedApi.tableConfig {} ""
    let entity := buildEntity countTable config unsignedApi
    let storage := storageFields (buildFields config countTable.columns)
    unsignedApi.disableUnsigned = false ∧
    entity.fields.map (·.type) = [.scalar .uint64, .scalar .uint64] ∧
    storage.map (·.type) = [.scalar .int64, .pointer .int64] ∧
    (entity.convertMembers storage).map (·.conversion) = [.copy, .pointee] ∧
    ∃ apiField storedField, entity.fields[0]? = some apiField ∧ storage[0]? = some storedField ∧
      ¬ (Conversion.between apiField storedField).Typed storedField.type apiField.type := by
  have hinteger : countColumn.IsInteger := ⟨.integer, by decide +kernel, rfl, nofun⟩
  obtain ⟨-, -, -, hviews⟩ := conversion_typed_iff_signed countTable unsignedApi {} "" rfl
  obtain ⟨apiField, storedField, hapi, hstored, -, -, htyped⟩ := hviews 0 countColumn (by decide +kernel)
  refine ⟨rfl, by decide +kernel, by decide +kernel, by decide +kernel, apiField, storedField, hapi,
    hstored, fun h => htyped.mp h ⟨hinteger, rfl⟩⟩

end TableCodegen
