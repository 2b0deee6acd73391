import TableCodegen.Proofs.Gist.Conversion
import TableCodegen.Proofs.Text.Blank
import TableCodegen.Tag.Dialect

/-!
# Keywords of columns

The keyword of a column decides its type. It is read in small letters and without the blanks around it, and the
keywords that have a type are listed. Two other readers look at the keyword on their own: the views test it for
JSON, and the `beego` dialect writes its type clause by it.

Results:

* `mapType_by_keyword`: the keywords and settings that give an unknown type, a wrapper or an unsigned type, and the
  one family of wrappers in a list of fields.
* `Field.type_respelled`: another spelling of the keyword does not change the type of the model view.
* `Field.isJson_respelled_iff`, `beegoType_respelled_iff`: what it changes for the other readers.
* `respelled_keyword_iff`: the spellings under which all views and the dialect stay the same.

**Deviation.** The other readers put the keyword into small letters too, but they leave the blanks around it. So a
JSON column whose keyword has blanks around it is a text in the route view and in the storage view, and the
dialect takes any keyword with blanks around it for an unknown one.
-/

namespace TableCodegen

open TableCodegen.Text

/-! ## Types by keyword -/

/-- A type is unknown just if its keyword is not listed. It is a wrapper just if the column is nullable, the settings
    have wrappers and its keyword is listed and not binary; it is unsigned only for integers of an unsigned column.
    All wrappers in a list of fields are of one family. -/
theorem mapType_by_keyword :
    (∀ (dataType : String) (traits : TypeTraits) (policy : NullPolicy),
      (mapType dataType traits policy = .unknown ↔ normalKeyword dataType ∉ knownDataTypes) ∧
      (∀ family, (mapType dataType traits policy).wrapper? = some family ↔
        family = policy ∧ traits.nullable = true ∧ policy ≠ .plain ∧
          normalKeyword dataType ∈ knownDataTypes ∧ normalKeyword dataType ∉ TypeFamily.binary.keywords) ∧
      ∀ s, (mapType dataType traits policy).scalar? = some s → s.isUnsigned = true →
        traits.unsigned = true ∧
          ∃ family : TypeFamily, family.isInteger = true ∧ normalKeyword dataType ∈ family.keywords) ∧
    ∀ (config : GenerationConfig) (columns : List Column),
      ∀ first ∈ buildFields config columns, ∀ second ∈ buildFields config columns,
        ∀ family other, first.type.wrapper? = some family → second.type.wrapper? = some other →
          family = other := by
  refine ⟨fun dataType traits policy => ⟨mapType_eq_unknown_iff, fun family => wrapper?_mapType_eq_some_iff,
    fun s => isUnsigned_of_mapType⟩, fun config columns => ?_⟩
  intro first hfirst second hsecond family other hfamily hother
  rw [family_of_mem_buildFields hfirst hfamily, family_of_mem_buildFields hsecond hother]

theorem mapType_congr {dataType other : String} (h : normalKeyword dataType = normalKeyword other)
    (traits : TypeTraits) (policy : NullPolicy) : mapType dataType traits policy = mapType other traits policy := by
  rw [mapType, mapType, h]

/-- The column with another text for its keyword. -/
def Column.respelled (column : Column) (text : String) : Column :=
  { column with dataType := text }

@[simp] theorem Column.dataType_respelled (column : Column) (text : String) :
    (column.respelled text).dataType = text := rfl

/-! ## Views -/

namespace Field

theorem isJson_ofColumn (config : GenerationConfig) (column : Column) :
    (ofColumn config column).isJson = (asciiLower column.dataType == jsonDataType) := rfl

section Congruence

variable {field other : Field}

/-- The route view reads the type, the listed values and the test for JSON. -/
theorem routeType_congr (htype : field.type = other.type) (henums : field.enums = other.enums)
    (hjson : field.isJson = other.isJson) (config : GenerationConfig) :
    field.routeType config = other.routeType config := by
  simp only [routeType, fixedInt, fixedUint, htype, henums, hjson]

theorem storedType_congr (htype : field.type = other.type) (henums : field.enums = other.enums)
    (hname : field.rawName = other.rawName) : field.storedType = other.storedType := by
  simp only [storedType, fixedInt, htype, henums, hname]

theorem storageType_congr (hstored : field.storedType = other.storedType)
    (hdefault : field.default = other.default) (hjson : field.isJson = other.isJson) :
    field.toStorage.type = other.toStorage.type := by
  cases hother : other.isJson with
  | true => rw [type_toStorage_of_isJson (hjson.trans hother), type_toStorage_of_isJson hother]
  | false =>
    rw [type_toStorage (hjson.trans hother), type_toStorage hother, hstored, hasDefault, hasDefault, hdefault]

end Congruence

/-- The types of text columns: plain, or a wrapper of either family. -/
def textTypes : List MemberType :=
  [.scalar .string, .sqlNull .string, .gureguNull .string]

/-- However its keyword is spelled, a JSON column has the type of a text in the model view. -/
theorem type_mem_textTypes {column : Column} (h : normalKeyword column.dataType = jsonDataType)
    (config : GenerationConfig) : (ofColumn config column).type ∈ textTypes := by
  have hkeyword : normalKeyword column.dataType ∈ TypeFamily.text.keywords := by
    rw [h]
    decide +kernel
  rw [type_ofColumn_eq, mapType_of_mem_keywords hkeyword, TypeFamily.memberType]
  cases (column.traits config).nullable <;> cases config.nullability <;> simp [wrapNullable, textTypes]

theorem normalKeyword_of_isJson {config : GenerationConfig} {column : Column}
    (h : (ofColumn config column).isJson = true) : normalKeyword column.dataType = jsonDataType := by
  rw [isJson_ofColumn, beq_iff_eq] at h
  rw [normalKeyword_eq, h]
  decide +kernel

section TextTypes

variable {field : Field} (htype : field.type ∈ textTypes) (hjson : field.isJson = false)
include htype hjson

/-- A text is no decoded JSON in the route view. -/
theorem routeType_ne_jsonMap (config : GenerationConfig) : field.routeType config ≠ .scalar .jsonMap := by
  simp only [textTypes, List.mem_cons, List.not_mem_nil, or_false] at htype
  rcases htype with htype | htype | htype <;> cases hunsigned : config.disableUnsigned <;>
    simp [routeType, hjson, htype, hunsigned, MemberType.stripUnsigned, MemberType.isOf, MemberType.scalar?,
      Scalar.signed]

/-- Nor is it stored as JSON. -/
theorem storageType_ne_storedJson : field.toStorage.type ≠ .scalar .storedJson := by
  simp only [textTypes, List.mem_cons, List.not_mem_nil, or_false] at htype
  rw [type_toStorage hjson]
  rcases htype with htype | htype | htype <;> cases hdefault : field.hasDefault <;>
    simp [storedType, htype, MemberType.stripUnsigned, MemberType.isOf, MemberType.scalar?, Scalar.signed,
      MemberType.toPointer, Scalar.isReference, Scalar.shape]

end TextTypes

/-- The test for JSON does not ignore blanks. -/
theorem isJson_respelled_iff (config : GenerationConfig) (column : Column) (text : String) :
    (ofColumn config (column.respelled text)).isJson = (ofColumn config column).isJson ↔
      (asciiLower text = jsonDataType ↔ asciiLower column.dataType = jsonDataType) := by
  rw [isJson_ofColumn, isJson_ofColumn, Column.dataType_respelled, Bool.eq_iff_iff, beq_iff_eq, beq_iff_eq]

section Respelled

variable {column : Column} {text : String} (h : normalKeyword text = normalKeyword column.dataType)
  (config : GenerationConfig)
include h

theorem type_respelled : (ofColumn config (column.respelled text)).type = (ofColumn config column).type := by
  have htraits : (column.respelled text).traits config = column.traits config := rfl
  rw [type_ofColumn_eq, type_ofColumn_eq, htraits]
  exact mapType_congr h _ _

/-- The two spellings have the type of a text, as soon as one of them passes for JSON. -/
theorem types_mem_textTypes (hjson : (ofColumn config (column.respelled text)).isJson = true ∨
      (ofColumn config column).isJson = true) :
    (ofColumn config (column.respelled text)).type ∈ textTypes ∧ (ofColumn config column).type ∈ textTypes := by
  have hkey : normalKeyword column.dataType = jsonDataType := by
    rcases hjson with hjson | hjson
    · have hrespelled := normalKeyword_of_isJson hjson
      exact h.symm.trans hrespelled
    · exact normalKeyword_of_isJson hjson
  have htype := type_mem_textTypes hkey config
  rw [type_respelled h config]
  exact ⟨htype, htype⟩

/-- A view that shows JSON by a type of its own tells two spellings apart just when one of them passes for JSON and
    the other does not. -/
theorem view_respelled_iff (view : Field → MemberType) {shown : MemberType}
    (hshown : ∀ {field : Field}, field.isJson = true → view field = shown)
    (hother : ∀ {field : Field}, field.type ∈ textTypes → field.isJson = false → view field ≠ shown)
    (hsame : (ofColumn config (column.respelled text)).isJson = (ofColumn config column).isJson →
      view (ofColumn config (column.respelled text)) = view (ofColumn config column)) :
    view (ofColumn config (column.respelled text)) = view (ofColumn config column) ↔
      (asciiLower text = jsonDataType ↔ asciiLower column.dataType = jsonDataType) := by
  rw [← isJson_respelled_iff config]
  refine ⟨fun heq => ?_, hsame⟩
  cases hrespelled : (ofColumn config (column.respelled text)).isJson <;>
    cases hjson : (ofColumn config column).isJson
  case false.false | true.true => rfl
  case true.false =>
    have htypes := types_mem_textTypes h config (Or.inl hrespelled)
    exact absurd (heq.symm.trans (hshown hrespelled)) (hother htypes.2 hjson)
  case false.true =>
    have htypes := types_mem_textTypes h config (Or.inr hjson)
    exact absurd (heq.trans (hshown hjson)) (hother htypes.1 hrespelled)

theorem routeType_respelled_iff :
    (ofColumn config (column.respelled text)).routeType config = (ofColumn config column).routeType config ↔
      (asciiLower text = jsonDataType ↔ asciiLower column.dataType = jsonDataType) := by
  refine view_respelled_iff h config (routeType config) (fun hjson => routeType_of_isJson hjson config)
    (fun htype hjson => routeType_ne_jsonMap htype hjson config) fun hjson => ?_
  have henums : (ofColumn config (column.respelled text)).enums = (ofColumn config column).enums := rfl
  exact routeType_congr (type_respelled h config) henums hjson config

theorem storageType_respelled_iff :
    (ofColumn config (column.respelled text)).toStorage.type = (ofColumn config column).toStorage.type ↔
      (asciiLower text = jsonDataType ↔ asciiLower column.dataType = jsonDataType) := by
  refine view_respelled_iff h config (fun field => field.toStorage.type) type_toStorage_of_isJson
    storageType_ne_storedJson fun hjson => ?_
  have hstored : (ofColumn config (column.respelled text)).storedType = (ofColumn config column).storedType :=
    storedType_congr (type_respelled h config) rfl rfl
  exact storageType_congr hstored rfl hjson

end Respelled

end Field

/-! ## Type clauses -/

/-- A keyword as the tables of the dialect have it: no blanks around it, and no separator in it. -/
def IsBareKeyword (keyword : String) : Prop :=
  trimmed keyword = keyword ∧ ';' ∉ keyword.toList

instance (keyword : String) : Decidable (IsBareKeyword keyword) :=
  inferInstanceAs (Decidable (_ ∧ _))

/-- The type clauses of a column. One that has several clauses, or that shows another text than its keyword, has
    its keyword from a table. -/
theorem beegoTypeClauses_cases (column : Column) :
    (IsBareKeyword (asciiLower column.dataType) ∧
      ∃ first second rest, beegoTypeClauses column = first :: second :: rest) ∨
    ∃ text, beegoTypeClauses column = ["type(" ++ text ++ ")"] ∧
      (text = asciiLower column.dataType ∨
        IsBareKeyword (asciiLower column.dataType) ∧ IsBareKeyword text) := by
  have hbare {keywords : List String} (hall : ∀ keyword ∈ keywords, IsBareKeyword keyword)
      (h : keywords.contains (asciiLower column.dataType) = true) :
      IsBareKeyword (asciiLower column.dataType) :=
    hall _ (List.contains_iff_mem.mp h)
  simp only [beegoTypeClauses]
  split
  case isTrue h => exact Or.inl ⟨hbare (by decide +kernel) h, _, _, _, rfl⟩
  split
  case isTrue h => exact Or.inl ⟨hbare (by decide +kernel) h, _, _, _, rfl⟩
  split
  case isTrue h => exact Or.inr ⟨"datetime", rfl, Or.inr ⟨hbare (by decide +kernel) h, by decide +kernel⟩⟩
  split
  case isTrue h => exact Or.inl ⟨hbare (by decide +kernel) h, _, _, _, rfl⟩
  split
  case isTrue h => exact Or.inr ⟨"text", rfl, Or.inr ⟨hbare (by decide +kernel) h, by decide +kernel⟩⟩
  exact Or.inr ⟨_, rfl, Or.inl rfl⟩

theorem toList_beegoType (column : Column) :
    (beegoType column).toList = (beegoTypeClauses column).flatMap fun clause => ';' :: clause.toList := by
  rw [beegoType, String.toList_join, List.flatMap_map]
  simp

section Blank

variable {column : Column} (hblank : trimmed (asciiLower column.dataType) ≠ asciiLower column.dataType)
include hblank

/-- A keyword with blanks around it is shown as it is. -/
theorem toList_beegoType_of_blank :
    (beegoType column).toList = ';' :: ("type(".toList ++ (asciiLower column.dataType).toList ++ [')']) := by
  have hclause : beegoTypeClauses column = ["type(" ++ asciiLower column.dataType ++ ")"] := by
    rcases beegoTypeClauses_cases column with ⟨hbare, -⟩ | ⟨text, hclause, rfl | ⟨hbare, -⟩⟩
    · exact absurd hbare.1 hblank
    · exact hclause
    · exact absurd hbare.1 hblank
  rw [toList_beegoType, hclause]
  simp

/-- No other spelling is shown like it. -/
theorem asciiLower_eq_of_beegoType {other : Column}
    (hkey : normalKeyword other.dataType = normalKeyword column.dataType)
    (h : beegoType other = beegoType column) :
    asciiLower other.dataType = asciiLower column.dataType := by
  rw [← String.toList_inj, toList_beegoType_of_blank hblank, toList_beegoType] at h
  rcases beegoTypeClauses_cases other with ⟨hbare, first, second, rest, hother⟩ | ⟨text, hother, htext⟩
  · -- The separator of the second clause would be part of the keyword, which is another spelling of a bare one.
    have hmem : ';' ∈ "type(".toList ++ (asciiLower column.dataType).toList ++ [')'] := by
      have htail : first.toList ++ ';' :: (second.toList ++ rest.flatMap fun clause => ';' :: clause.toList) =
          "type(".toList ++ (asciiLower column.dataType).toList ++ [')'] := by
        simpa [hother] using h
      rw [← htail]
      simp
    have hout : ';' ∈ (trimmed (asciiLower column.dataType)).toList := by
      rw [trimmed, String.toList_ofList]
      exact mem_trim (by decide) (by simpa using hmem)
    rw [← normalKeyword_eq, ← hkey, normalKeyword_eq, hbare.1] at hout
    exact absurd hout hbare.2
  · have heq : text = asciiLower column.dataType := by
      rw [← String.toList_inj]
      simpa [hother] using h
    rcases htext with htext | ⟨-, hbare⟩
    · rw [← htext, heq]
    · rw [heq] at hbare
      exact absurd hbare.1 hblank

end Blank

/-- The dialect ignores the case of a keyword and nothing else. -/
theorem beegoType_respelled_iff {column : Column} {text : String}
    (h : normalKeyword text = normalKeyword column.dataType) :
    beegoType (column.respelled text) = beegoType column ↔ asciiLower text = asciiLower column.dataType := by
  refine ⟨fun heq => ?_, fun heq => ?_⟩
  · by_cases hcolumn : trimmed (asciiLower column.dataType) = asciiLower column.dataType
    · by_cases htext : trimmed (asciiLower text) = asciiLower text
      · rw [← htext, ← hcolumn, ← normalKeyword_eq, ← normalKeyword_eq, h]
      · exact (@asciiLower_eq_of_beegoType (column.respelled text) htext column h.symm heq.symm).symm
    · exact @asciiLower_eq_of_beegoType column hcolumn (column.respelled text) h heq
  · have hclauses : beegoTypeClauses (column.respelled text) = beegoTypeClauses column := by
      have hdata : asciiLower (column.respelled text).dataType = asciiLower column.dataType := heq
      unfold beegoTypeClauses
      rw [hdata]
      rfl
    rw [beegoType, beegoType, hclauses]

/-! ## All readers of a keyword -/

/-- Another spelling of a keyword never changes the type in the model view. It changes the types in the other views
    just when one of the two spellings is JSON without blanks and the other is not, and the clause of the dialect
    just when the spellings differ in more than the case of letters. -/
theorem respelled_keyword_iff {column : Column} {text : String}
    (h : normalKeyword text = normalKeyword column.dataType) (config : GenerationConfig) :
    let field := Field.ofColumn config column
    let respelled := Field.ofColumn config (column.respelled text)
    respelled.type = field.type ∧
      ((respelled.toApi config).type = (field.toApi config).type ↔
        (asciiLower text = jsonDataType ↔ asciiLower column.dataType = jsonDataType)) ∧
      (respelled.toStorage.type = field.toStorage.type ↔
        (asciiLower text = jsonDataType ↔ asciiLower column.dataType = jsonDataType)) ∧
      (beegoType (column.respelled text) = beegoType column ↔
        asciiLower text = asciiLower column.dataType) := by
  intro field respelled
  rw [Field.type_toApi, Field.type_toApi]
  exact ⟨Field.type_respelled h config, Field.routeType_respelled_iff h config,
    Field.storageType_respelled_iff h config, beegoType_respelled_iff h⟩

/-- A column of JSON. -/
def settingsColumn : Column :=
  .ofRow { name := "settings", ordinal := 1, dataType := "json", columnType := "json", nullable := "NO" } []

/-- With a blank behind its keyword, the column is a text in the model view as before, but all else changes. -/
theorem blank_behind_json :
    normalKeyword "json " = normalKeyword settingsColumn.dataType ∧
      let field := Field.ofColumn {} settingsColumn
      let respelled := Field.ofColumn {} (settingsColumn.respelled "json ")
      respelled.type = field.type ∧ (respelled.toApi {}).type ≠ (field.toApi {}).type ∧
        respelled.toStorage.type ≠ field.toStorage.type ∧
          beegoType (settingsColumn.respelled "json ") ≠ beegoType settingsColumn := by
  have hkey : normalKeyword "json " = normalKeyword settingsColumn.dataType := by decide +kernel
  have hspelled : ¬ (asciiLower "json " = jsonDataType ↔ asciiLower settingsColumn.dataType = jsonDataType) := by
    decide +kernel
  obtain ⟨htype, hapi, hstorage, hclause⟩ := respelled_keyword_iff hkey {}
  exact ⟨hkey, htype, mt hapi.mp hspelled, mt hstorage.mp hspelled, mt hclause.mp (by decide +kernel)⟩

end TableCodegen
