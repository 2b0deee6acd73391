import Mathlib.Data.List.Basic
import TableCodegen.MemberType.OfColumn

/-!
# Types of columns

When nullable columns keep their plain types, the type of a column is one of twelve plain types, or the
mark of an unknown keyword. Otherwise it may be a wrapper, of the family that the run has chosen.

Results:

* `zeroLiteral_emptyLiteral`: `emptyLiteral` writes the zero value of every plain type but a time.
* `normalKeyword_eq`: a keyword can be put into small letters before or after its blanks are cut.
* `TypeFamily.ofKeyword?_eq_some_iff`, `TypeFamily.mem_knownDataTypes_iff`: the family of a keyword, and the
  keywords that have one.
* `mapType_plain`: the types that columns have without wrappers; unsigned ones only come from unsigned
  columns.
* `mapType_plain_eq_time_iff`: of these, times are the types of temporal keywords.
* `mapType_eq_unknown_iff`: the data types that are unknown.
* `wrapper?_mapType_eq_some_iff`: the columns that have wrappers, and the family of their wrappers.
* `isUnsigned_of_mapType`: unsigned types are those of unsigned integer columns, under any policy.
-/

namespace TableCodegen

open TableCodegen.Text

/-! ## Zero values -/

/-- The literal writes the zero value of the type. -/
inductive MemberType.ZeroLiteral : MemberType → String → Prop where
  | number {s : Scalar} (h : s.isInteger || s.isFloat) : ZeroLiteral (.scalar s) "0"
  | text : ZeroLiteral (.scalar .string) "\"\""
  | truth : ZeroLiteral (.scalar .bool) "false"
  | reference {s : Scalar} (h : s.isReference) : ZeroLiteral (.scalar s) "nil"
  | pointer (s : Scalar) : ZeroLiteral (.pointer s) "nil"
  | instant : ZeroLiteral (.scalar .time) "time.Time\x7b\x7d"
  | deletion : ZeroLiteral (.scalar .deletedAt) "gorm.DeletedAt\x7b\x7d"

/-- The literal for a member that holds nothing is its zero value; for a time it is the current one. -/
theorem zeroLiteral_emptyLiteral {s : Scalar} (h : s ≠ .time) :
    MemberType.ZeroLiteral (.scalar s) (MemberType.scalar s).emptyLiteral := by
  cases s with
  | time => exact absurd rfl h
  | string => exact .text
  | bool => exact .truth
  | deletedAt => exact .deletion
  | bytes | jsonMap | storedJson => exact .reference rfl
  | int | int32 | int64 | uint | uint32 | uint64 | float32 | float64 => exact .number rfl

theorem MemberType.zeroLiteral_of_isPointer {type : MemberType} (h : type.isPointer = true) :
    ZeroLiteral type "nil" := by
  cases type with
  | pointer s => exact .pointer s
  | scalar | sqlNull | gureguNull | unknown => cases h

/-! ## Keywords -/

theorem toNat_toLower {c : Char} (h : c.val ≥ 'A'.val ∧ c.val ≤ 'Z'.val) :
    (65 ≤ c.toNat ∧ c.toNat ≤ 90) ∧ c.toLower.toNat = c.toNat + 32 := by
  have hle : 65 ≤ c.toNat ∧ c.toNat ≤ 90 := h
  refine ⟨hle, ?_⟩
  have hlower : c.toLower = ⟨c.val + 32, _⟩ := dif_pos h
  rw [hlower]
  show (c.val + 32).toNat = c.val.toNat + 32
  have : c.val.toNat ≤ 90 := hle.2
  rw [UInt32.toNat_add, show (32 : UInt32).toNat = 32 from rfl]
  omega

theorem toLower_toLower (c : Char) : c.toLower.toLower = c.toLower := by
  by_cases h : c.val ≥ 'A'.val ∧ c.val ≤ 'Z'.val
  · obtain ⟨hle, hlower⟩ := toNat_toLower h
    have hout : ¬ (c.toLower.val ≥ 'A'.val ∧ c.toLower.val ≤ 'Z'.val) := by
      intro hle'
      have : c.toLower.toNat ≤ 90 := hle'.2
      omega
    exact dif_neg hout
  · have hsame : c.toLower = c := dif_neg h
    rw [hsame, hsame]

/-- No ASCII letter is a blank. -/
theorem isBlank_toLower (c : Char) : isBlank c.toLower = isBlank c := by
  by_cases h : c.val ≥ 'A'.val ∧ c.val ≤ 'Z'.val
  · obtain ⟨hle, hlower⟩ := toNat_toLower h
    have hout (n : Nat) (h₁ : 65 ≤ n) (h₂ : n ≤ 122) :
        ((9 ≤ n && n ≤ 13) || n == 0x20 || n == 0x85 || n == 0xA0 || n == 0x1680 ||
          (0x2000 ≤ n && n ≤ 0x200A) || n == 0x2028 || n == 0x2029 || n == 0x202F || n == 0x205F ||
          n == 0x3000) = false := by
      simp
      omega
    rw [isBlank, isBlank]
    simp only [hout c.toNat hle.1 (by omega), hout c.toLower.toNat (by omega) (by omega)]
  · have hsame : c.toLower = c := dif_neg h
    rw [hsame]

theorem asciiLower_asciiLower (text : String) : asciiLower (asciiLower text) = asciiLower text := by
  simp only [asciiLower, String.toList_ofList, List.map_map, String.ofList_inj]
  exact List.map_congr_left fun c _ => toLower_toLower c

theorem dropWhile_isBlank_map_toLower (cs : List Char) :
    (cs.map Char.toLower).dropWhile isBlank = (cs.dropWhile isBlank).map Char.toLower := by
  rw [List.dropWhile_map]
  congr 2
  funext c
  exact isBlank_toLower c

theorem trim_map_toLower (cs : List Char) :
    trim (cs.map Char.toLower) = (trim cs).map Char.toLower := by
  rw [trim, trim, dropAroundWhile, dropAroundWhile, dropEndWhile, dropEndWhile,
    dropWhile_isBlank_map_toLower, ← List.map_reverse, dropWhile_isBlank_map_toLower,
    ← List.map_reverse]

/-- The blanks around a keyword can be cut after its case is changed. -/
theorem normalKeyword_eq (dataType : String) :
    normalKeyword dataType = trimmed (asciiLower dataType) := by
  simp only [normalKeyword, asciiLower, trimmed, String.toList_ofList, trim_map_toLower]

theorem normalKeyword_asciiLower (dataType : String) :
    normalKeyword (asciiLower dataType) = normalKeyword dataType := by
  rw [normalKeyword_eq, normalKeyword_eq, asciiLower_asciiLower]

namespace TypeFamily

theorem mem_all (family : TypeFamily) : family ∈ all := by
  cases family <;> decide

/-- No keyword is in two families, so the order in which they are looked up does not count. -/
theorem eq_of_mem_keywords {family other : TypeFamily} {keyword : String}
    (h : keyword ∈ family.keywords) (hother : keyword ∈ other.keywords) : other = family := by
  have hall : ∀ family ∈ all, ∀ other ∈ all, ∀ keyword ∈ family.keywords,
      keyword ∈ other.keywords → other = family := by decide +kernel
  exact hall family (mem_all family) other (mem_all other) keyword h hother

theorem ofKeyword?_eq_some_iff {keyword : String} {family : TypeFamily} :
    ofKeyword? keyword = some family ↔ keyword ∈ family.keywords := by
  constructor
  · intro h
    simpa using List.find?_some h
  · intro h
    cases hfind : ofKeyword? keyword with
    | none =>
      have hnone := List.find?_eq_none.mp hfind family (mem_all family)
      simp [h] at hnone
    | some other =>
      have hother : keyword ∈ other.keywords := by simpa using List.find?_some hfind
      rw [eq_of_mem_keywords h hother]

/-- The list of all keywords agrees with the families. -/
theorem mem_knownDataTypes_iff {keyword : String} :
    keyword ∈ knownDataTypes ↔ ∃ family : TypeFamily, keyword ∈ family.keywords := by
  have hall : knownDataTypes = all.flatMap keywords := rfl
  simp [hall, mem_all]

theorem ofKeyword?_eq_none_iff {keyword : String} :
    ofKeyword? keyword = none ↔ keyword ∉ knownDataTypes := by
  rw [mem_knownDataTypes_iff, ofKeyword?, List.find?_eq_none]
  simp [mem_all]

end TypeFamily

/-! ## Types of columns -/

@[simp] theorem wrapNullable_plain (nullable : Bool) (sql : SqlWrapper) (guregu : NullWrapper)
    (plain : Scalar) : wrapNullable nullable .plain sql guregu plain = .scalar plain := by
  cases nullable <;> rfl

/-- The plain types that columns have. -/
def columnScalars : List Scalar :=
  [.bool, .int, .int32, .int64, .uint, .uint32, .uint64, .float32, .float64, .string, .time, .bytes]

theorem memberType_plain (family : TypeFamily) (traits : TypeTraits) :
    ∃ s ∈ columnScalars, family.memberType traits .plain = .scalar s ∧
      (traits.unsigned = false → s.isUnsigned = false) ∧ (s = .time ↔ family = .temporal) := by
  obtain ⟨nullable, unsigned, isBool⟩ := traits
  simp only [TypeFamily.memberType, wrapNullable_plain, columnScalars]
  cases family with
  | smallInteger =>
    cases isBool with
    | true => exact ⟨.bool, by simp [Scalar.isUnsigned]⟩
    | false =>
      cases unsigned with
      | true => exact ⟨.uint32, by simp⟩
      | false => exact ⟨.int32, by simp [Scalar.isUnsigned]⟩
  | integer =>
    cases unsigned with
    | true => exact ⟨.uint, by simp⟩
    | false => exact ⟨.int, by simp [Scalar.isUnsigned]⟩
  | bigInteger =>
    cases unsigned with
    | true => exact ⟨.uint64, by simp⟩
    | false => exact ⟨.int64, by simp [Scalar.isUnsigned]⟩
  | text => exact ⟨.string, by simp [Scalar.isUnsigned]⟩
  | temporal => exact ⟨.time, by simp [Scalar.isUnsigned]⟩
  | single => exact ⟨.float32, by simp [Scalar.isUnsigned]⟩
  | double => exact ⟨.float64, by simp [Scalar.isUnsigned]⟩
  | binary => exact ⟨.bytes, by simp [Scalar.isUnsigned]⟩

/-- Without wrappers, a column of a known keyword has a plain type. -/
theorem mapType_plain (dataType : String) (traits : TypeTraits) :
    mapType dataType traits .plain = .unknown ∨
      ∃ s ∈ columnScalars, mapType dataType traits .plain = .scalar s ∧
        (traits.unsigned = false → s.isUnsigned = false) := by
  rw [mapType]
  cases TypeFamily.ofKeyword? (normalKeyword dataType) with
  | none => exact Or.inl rfl
  | some family =>
    obtain ⟨s, hs, htype, hunsigned, -⟩ := memberType_plain family traits
    exact Or.inr ⟨s, hs, htype, hunsigned⟩

/-- Times are the types of temporal keywords. -/
theorem mapType_plain_eq_time_iff (dataType : String) (traits : TypeTraits) :
    mapType dataType traits .plain = .scalar .time ↔
      TypeFamily.ofKeyword? (normalKeyword dataType) = some .temporal := by
  rw [mapType]
  cases TypeFamily.ofKeyword? (normalKeyword dataType) with
  | none => simp
  | some family =>
    obtain ⟨s, -, htype, -, htime⟩ := memberType_plain family traits
    simp [htype, htime]

/-- The data type of JSON columns is a text keyword. -/
theorem mapType_json {dataType : String} (h : asciiLower dataType = "json") (traits : TypeTraits) :
    mapType dataType traits .plain = .scalar .string := by
  have hfamily : TypeFamily.ofKeyword? (normalKeyword dataType) = some .text := by
    rw [normalKeyword_eq, h]
    decide +kernel
  rw [mapType, hfamily]
  simp [TypeFamily.memberType]

/-! ## Wrappers -/

/-- The family of a wrapper. -/
def MemberType.wrapper? : MemberType → Option NullPolicy
  | sqlNull _ => some .sqlNull
  | gureguNull _ => some .gureguNull
  | scalar _ | pointer _ | unknown => none

theorem wrapper?_wrapNullable (nullable : Bool) (policy : NullPolicy) (sql : SqlWrapper)
    (guregu : NullWrapper) (plain : Scalar) :
    (wrapNullable nullable policy sql guregu plain).wrapper? =
      if nullable = true ∧ policy ≠ .plain then some policy else none := by
  cases nullable <;> cases policy <;> rfl

theorem wrapNullable_ne_unknown (nullable : Bool) (policy : NullPolicy) (sql : SqlWrapper)
    (guregu : NullWrapper) (plain : Scalar) :
    wrapNullable nullable policy sql guregu plain ≠ .unknown := by
  cases nullable <;> cases policy <;> exact MemberType.noConfusion

/-- A wrapper has no plain type, so a plain type is the one of columns without wrappers. -/
theorem eq_of_scalar?_wrapNullable {nullable : Bool} {policy : NullPolicy} {sql : SqlWrapper}
    {guregu : NullWrapper} {plain s : Scalar}
    (h : (wrapNullable nullable policy sql guregu plain).scalar? = some s) : s = plain := by
  cases nullable <;> cases policy <;> cases h <;> rfl

namespace TypeFamily

variable (family : TypeFamily) (traits : TypeTraits) (policy : NullPolicy)

/-- Bytes have an absent value of their own and are never wrapped. -/
theorem wrapper?_memberType :
    (family.memberType traits policy).wrapper? =
      if traits.nullable = true ∧ policy ≠ .plain ∧ family ≠ .binary then some policy else none := by
  cases family with
  | binary => simp [memberType, MemberType.wrapper?]
  | smallInteger =>
    simp only [memberType]
    split <;> simp [wrapper?_wrapNullable]
  | integer | bigInteger | text | temporal | single | double =>
    simp [memberType, wrapper?_wrapNullable]

theorem memberType_ne_unknown : family.memberType traits policy ≠ .unknown := by
  cases family with
  | smallInteger =>
    simp only [memberType]
    split <;> exact wrapNullable_ne_unknown _ _ _ _ _
  | integer | bigInteger | text | temporal | single | double => exact wrapNullable_ne_unknown _ _ _ _ _
  | binary => exact MemberType.noConfusion

/-- The keywords of the family stand for integers. -/
def isInteger : TypeFamily → Bool
  | smallInteger | integer | bigInteger => true
  | text | temporal | single | double | binary => false

variable {family traits policy}

theorem isUnsigned_of_memberType {s : Scalar} (h : (family.memberType traits policy).scalar? = some s)
    (hs : s.isUnsigned = true) : traits.unsigned = true ∧ family.isInteger = true := by
  have hunsigned {wide narrow : Scalar} (hnarrow : narrow.isUnsigned = false)
      (h : s = if traits.unsigned then wide else narrow) : traits.unsigned = true := by
    by_contra hsigned
    rw [if_neg hsigned] at h
    rw [h, hnarrow] at hs
    cases hs
  cases family with
  | smallInteger =>
    simp only [memberType] at h
    split at h
    · rw [eq_of_scalar?_wrapNullable h] at hs
      cases hs
    · exact ⟨hunsigned rfl (eq_of_scalar?_wrapNullable h), rfl⟩
  | integer | bigInteger => exact ⟨hunsigned rfl (eq_of_scalar?_wrapNullable h), rfl⟩
  | text | temporal | single | double =>
    rw [eq_of_scalar?_wrapNullable h] at hs
    cases hs
  | binary =>
    cases h
    cases hs

end TypeFamily

section MapType

variable {dataType : String} {traits : TypeTraits} {policy : NullPolicy}

theorem mapType_of_mem_keywords {family : TypeFamily} (h : normalKeyword dataType ∈ family.keywords) :
    mapType dataType traits policy = family.memberType traits policy := by
  rw [mapType, TypeFamily.ofKeyword?_eq_some_iff.mpr h]

theorem mapType_of_not_mem (h : normalKeyword dataType ∉ knownDataTypes) :
    mapType dataType traits policy = .unknown := by
  rw [mapType, TypeFamily.ofKeyword?_eq_none_iff.mpr h]

/-- The unknown data types are those that are not listed, whatever else is known of the column. -/
theorem mapType_eq_unknown_iff :
    mapType dataType traits policy = .unknown ↔ normalKeyword dataType ∉ knownDataTypes := by
  refine ⟨fun h hknown => ?_, mapType_of_not_mem⟩
  obtain ⟨family, hfamily⟩ := TypeFamily.mem_knownDataTypes_iff.mp hknown
  rw [mapType_of_mem_keywords hfamily] at h
  exact TypeFamily.memberType_ne_unknown family traits policy h

/-- The nullable columns whose keywords are known and not binary have wrappers, of the chosen family. -/
theorem wrapper?_mapType_eq_some_iff {family : NullPolicy} :
    (mapType dataType traits policy).wrapper? = some family ↔
      family = policy ∧ traits.nullable = true ∧ policy ≠ .plain ∧
        normalKeyword dataType ∈ knownDataTypes ∧
          normalKeyword dataType ∉ TypeFamily.binary.keywords := by
  by_cases hknown : normalKeyword dataType ∈ knownDataTypes
  · obtain ⟨keywords, hkeyword⟩ := TypeFamily.mem_knownDataTypes_iff.mp hknown
    have hbinary : normalKeyword dataType ∈ TypeFamily.binary.keywords ↔ keywords = .binary :=
      ⟨fun h => TypeFamily.eq_of_mem_keywords h hkeyword, fun h => h ▸ hkeyword⟩
    rw [mapType_of_mem_keywords hkeyword, TypeFamily.wrapper?_memberType, hbinary]
    split
    · rename_i h
      exact ⟨fun heq => ⟨(Option.some.inj heq).symm, h.1, h.2.1, hknown, h.2.2⟩,
        fun heq => congrArg some heq.1.symm⟩
    · rename_i h
      exact ⟨nofun, fun heq => absurd ⟨heq.2.1, heq.2.2.1, heq.2.2.2.2⟩ h⟩
  · rw [mapType_of_not_mem hknown]
    exact ⟨nofun, fun heq => absurd heq.2.2.2.1 hknown⟩

theorem isUnsigned_of_mapType {s : Scalar} (h : (mapType dataType traits policy).scalar? = some s)
    (hs : s.isUnsigned = true) :
    traits.unsigned = true ∧
      ∃ family : TypeFamily, family.isInteger = true ∧ normalKeyword dataType ∈ family.keywords := by
  by_cases hknown : normalKeyword dataType ∈ knownDataTypes
  · obtain ⟨family, hfamily⟩ := TypeFamily.mem_knownDataTypes_iff.mp hknown
    rw [mapType_of_mem_keywords hfamily] at h
    have hinteger := TypeFamily.isUnsigned_of_memberType h hs
    exact ⟨hinteger.1, family, hinteger.2, hfamily⟩
  · rw [mapType_of_not_mem hknown] at h
    cases h

end MapType

end TableCodegen
