import TableCodegen.Document.Gist.Request
import TableCodegen.Document.Route.Member
import TableCodegen.Proofs.Field.View

/-!
# Columns that an update request leaves out

The code for an update sets some columns without a test that their members are given. Such a column is
safe when the tag of its member makes the member mandatory; otherwise a request that leaves the member
out overwrites the column with a zero value. The two are decided apart: the test by the type of the
member, the tag by the column. Here it is said exactly where they disagree.

Results:

* `MemberTag.toText_mandatory`, `MemberTag.toText_optional`: how the two kinds of tags start.
* `RouteMember.isMandatory_ofField_iff`: mandatory are the members of columns that are neither nullable
  nor have a default.
* `UpdateEntry.guard?_eq_none_iff`: the members that are read without a test are those that are neither
  JSON nor pointers.
* `unguarded_update_mandatory_iff`: of the members that are read without a test, all are mandatory but
  those of `Field.ResetWhenOmitted`.
-/

namespace TableCodegen

/-! ## Members that a caller has to give -/

/-- The caller of a request has to give the member. -/
def RouteMember.IsMandatory (member : RouteMember) : Prop :=
  ∃ key rules label, member.tag = .request .body key .mandatory (.required :: rules) label

/-- The start of the tag of a member that a caller has to give. -/
def mandatoryHead (key : String) : String :=
  "\x60json:\"" ++ key ++ "\" validate:\"required"

/-- The start of the tag of a member that a caller may leave out. -/
def optionalHead (key : String) : String :=
  "\x60json:\"" ++ key ++ ",optional\""

theorem exists_intercalate_cons (separator text : String) (texts : List String) :
    ∃ rest, separator.intercalate (text :: texts) = text ++ rest := by
  cases texts with
  | nil => exact ⟨"", by rw [String.intercalate_singleton, String.append_empty]⟩
  | cons next texts => exact ⟨_, by rw [String.intercalate_cons_cons, String.append_assoc]⟩

namespace MemberTag

theorem toText_optional (key : String) (rules : List Rule) (label : Option String) :
    ∃ rest, (request .body key .optional rules label).toText = optionalHead key ++ rest := by
  have hopen : ("\x60json:\"" : String) = backtick.toString ++ ("json" ++ ":\"") := by decide
  have hclose : (",optional\"" : String) = ",optional" ++ "\"" := by decide
  obtain ⟨rest, hrest⟩ := exists_intercalate_cons " " (Tag.mk "json" (key ++ ",optional")).toText
    ((request .body key .optional rules label).toTags.tail.map Tag.toText)
  refine ⟨rest ++ backtick.toString, ?_⟩
  calc (request .body key .optional rules label).toText
    _ = backtick.toString ++ ((Tag.mk "json" (key ++ ",optional")).toText ++ rest) ++
          backtick.toString := by rw [← hrest]; rfl
    _ = optionalHead key ++ (rest ++ backtick.toString) := by
      rw [optionalHead, hopen, hclose, Tag.toText]
      simp only [String.append_assoc]

theorem toText_mandatory (key : String) (rules : List Rule) (label : Option String) :
    ∃ rest, (request .body key .mandatory (.required :: rules) label).toText =
      mandatoryHead key ++ rest := by
  have hopen : ("\x60json:\"" : String) = backtick.toString ++ ("json" ++ ":\"") := by decide
  have hnext : ("\" validate:\"required" : String) =
      "\"" ++ (" " ++ ("validate" ++ (":\"" ++ "required"))) := by decide
  obtain ⟨moreRules, hrules⟩ := exists_intercalate_cons "," "required" (rules.map Rule.toText)
  obtain ⟨moreTags, htags⟩ := exists_intercalate_cons " "
    (Tag.mk "validate" ("required" ++ moreRules)).toText
    ((label.map fun text => Tag.mk "label" text).toList.map Tag.toText)
  have htoTags : (request .body key .mandatory (.required :: rules) label).toTags =
      ⟨"json", key⟩ :: ⟨"validate", "required" ++ moreRules⟩ ::
        (label.map fun text => Tag.mk "label" text).toList := by
    simp [toTags, clauseIf, RequestPlace.key, Presence.toText, Rule.toText, hrules]
  refine ⟨moreRules ++ ("\"" ++ (moreTags ++ backtick.toString)), ?_⟩
  rw [toText, htoTags, List.map_cons, List.map_cons, String.intercalate_cons_cons, htags,
    mandatoryHead, hopen, hnext, Tag.toText, Tag.toText]
  simp only [String.append_assoc]

end MemberTag

/-- Mandatory are the members of columns that are neither nullable nor have a default. -/
theorem RouteMember.isMandatory_ofField_iff {field : Field} (hkey : field.primaryKey = false) :
    (RouteMember.ofField .update field).IsMandatory ↔ field.isRequired = true := by
  cases hrequired : field.isRequired <;>
    simp [IsMandatory, ofField, tagOf, hkey, Mode.isWrite, hrequired, rulesOf]

/-- The tag of a member says at its start whether a caller has to give it. -/
theorem RouteMember.exists_toText_tag_ofField {field : Field} (hkey : field.primaryKey = false) :
    ((RouteMember.ofField .update field).IsMandatory ∧
      ∃ rest, (RouteMember.ofField .update field).tag.toText = mandatoryHead field.rawName ++ rest) ∨
    (¬ (RouteMember.ofField .update field).IsMandatory ∧
      ∃ rest, (RouteMember.ofField .update field).tag.toText =
        optionalHead field.rawName ++ rest) := by
  rw [isMandatory_ofField_iff hkey]
  cases hrequired : field.isRequired with
  | true =>
    refine Or.inl ⟨rfl, ?_⟩
    simp only [ofField, tagOf, hkey, Mode.isWrite, hrequired, rulesOf]
    exact MemberTag.toText_mandatory field.rawName _ _
  | false =>
    refine Or.inr ⟨Bool.false_ne_true, ?_⟩
    simp only [ofField, tagOf, hkey, Mode.isWrite, hrequired]
    exact MemberTag.toText_optional field.rawName _ _

/-! ## Members that are read without a test -/

/-- The code for an update tests that a member is given unless it is neither JSON nor a pointer. -/
theorem UpdateEntry.guard?_eq_none_iff {field : Field} :
    (UpdateEntry.ofField field).guard? = none ↔
      field.isJson = false ∧ (field.typeIn .update).isPointer = false := by
  simp only [guard?, ofField, Access.ofField]
  cases field.isJson <;> cases field.isTimeField <;> cases (field.typeIn .update).isPointer <;> simp

namespace Field

/-- The numbers of the route view that are not narrow. -/
def wideScalars : List Scalar := [.int64, .uint32, .uint64, .float32, .float64]

/-- A request for an update that leaves the member out sets the column to a zero value: either a caller
    may leave the member out and its type has no pointer, or the column is not nullable, its default is a
    written zero, and the member is a wide number whose values are not enumerated. -/
def ResetWhenOmitted (field : Field) : Prop :=
  ((field.type = .unknown ∨ field.type = .scalar .bytes) ∧
    (field.nullable = true ∨ field.default ≠ "")) ∨
  ((∃ s ∈ wideScalars, field.type = .scalar s) ∧ field.hasIntEnum = false ∧
    field.nullable = false ∧ field.default = "0")

theorem isRequired_iff {field : Field} :
    field.isRequired = true ↔ field.nullable = false ∧ field.default = "" := by
  simp [isRequired, hasDefault]

section Promotion

variable {field : Field} (hkey : field.primaryKey = false)
include hkey

/-- Where values are stored, promoted are nullable, narrow and enumerated fields and those with a default
    that says something. -/
theorem isPromoted_update_eq_false_iff (htype : field.type.isReference = false) :
    field.isPromoted .update = false ↔
      field.nullable = false ∧ field.isNarrow = false ∧ field.hasIntEnum = false ∧
        field.isDefaultEmpty = true := by
  simp [isPromoted, hkey, htype, Mode.isWrite, and_assoc]

theorem isPromoted_update_narrow {s : Scalar} (hs : s = .bool ∨ s = .int32)
    (htype : field.type = .scalar s) : field.isPromoted .update = true := by
  have hreference : field.type.isReference = false := by
    rcases hs with rfl | rfl <;> rw [htype] <;> rfl
  have hnarrow : field.isNarrow = true := by
    rcases hs with rfl | rfl <;> rw [isNarrow, htype] <;> rfl
  simp [isPromoted, hkey, hreference, hnarrow, Mode.isWrite]

/-- A text is read without a test only when its member is mandatory. -/
theorem isPromoted_update_string (htype : field.type = .scalar .string) :
    field.isPromoted .update = false ↔ field.isRequired = true := by
  rw [isPromoted_update_eq_false_iff hkey (by rw [htype]; rfl), isRequired_iff]
  simp [htype, isNarrow, hasIntEnum, isDefaultEmpty, MemberType.isDefaultEmpty, MemberType.scalar?]

/-- A wide number is also read without a test when its default is a written zero. -/
theorem isPromoted_update_wide {s : Scalar} (hs : s ∈ wideScalars) (htype : field.type = .scalar s) :
    field.isPromoted .update = false ↔
      field.hasIntEnum = false ∧ field.nullable = false ∧
        (field.default = "" ∨ field.default = "0") := by
  have hreference : field.type.isReference = false := by
    rw [htype]
    revert hs
    cases s <;> decide
  have hnarrow : field.isNarrow = false := by
    rw [isNarrow, htype]
    revert hs
    cases s <;> decide
  have hdefault : field.isDefaultEmpty = true ↔ field.default = "" ∨ field.default = "0" := by
    rw [isDefaultEmpty, htype]
    simp only [wideScalars, List.mem_cons, List.not_mem_nil, or_false] at hs
    rcases hs with rfl | rfl | rfl | rfl | rfl <;>
      simp [MemberType.isDefaultEmpty, MemberType.scalar?, Scalar.isInteger, Scalar.isFloat]
  rw [isPromoted_update_eq_false_iff hkey hreference, hnarrow, hdefault]
  simp [and_left_comm]

end Promotion

theorem mem_routeScalars {s : Scalar} (h : s ∈ routeScalars) :
    (s = .bool ∨ s = .int32) ∨ s = .string ∨ s = .bytes ∨ s ∈ wideScalars := by
  revert h
  cases s <;> decide

theorem resetWhenOmitted_wide {field : Field} {s : Scalar} (hs : s ∈ wideScalars)
    (htype : field.type = .scalar s) :
    field.ResetWhenOmitted ↔
      field.hasIntEnum = false ∧ field.nullable = false ∧ field.default = "0" := by
  have hbytes : s ≠ .bytes := by
    rintro rfl
    revert hs
    decide
  have hwide : ∃ t ∈ wideScalars, field.type = .scalar t := ⟨s, hs, htype⟩
  rw [ResetWhenOmitted, and_iff_right hwide, htype]
  simp [hbytes]

/-- The test and the tag disagree for the fields of `ResetWhenOmitted`. -/
theorem RouteTyped.unguarded_required_iff {field : Field} (h : field.RouteTyped)
    (hkey : field.primaryKey = false) :
    ((UpdateEntry.ofField field).guard? = none → field.isRequired = true) ↔
      ¬ field.ResetWhenOmitted := by
  rw [UpdateEntry.guard?_eq_none_iff]
  cases hjson : field.isJson with
  | true => simp [ResetWhenOmitted, wideScalars, h.json hjson]
  | false =>
    obtain htype | ⟨s, hs, htype⟩ := h.plain hjson
    · have hpointer : (field.typeIn .update).isPointer = false := by
        rw [typeIn_of_unknown htype]
        rfl
      simp [ResetWhenOmitted, htype, hpointer, isRequired_iff]
    · rw [isPointer_typeIn_of_scalar htype]
      obtain hs | rfl | rfl | hs := mem_routeScalars hs
      · -- a narrow member is always tested
        have hreset : ¬ field.ResetWhenOmitted := by
          rcases hs with rfl | rfl <;> simp [ResetWhenOmitted, htype, wideScalars]
        simp [isPromoted_update_narrow hkey hs htype, hreset]
      · simp [isPromoted_update_string hkey htype, ResetWhenOmitted, htype, wideScalars]
      · -- bytes are never tested
        have hreference : field.type.isReference = true := by
          rw [htype]
          rfl
        simp [ResetWhenOmitted, htype, isPromoted_of_isReference hreference, isRequired_iff,
          wideScalars]
      · rw [isPromoted_update_wide hkey hs htype, isRequired_iff, resetWhenOmitted_wide hs htype]
        constructor
        · rintro h ⟨henum, hnullable, hdefault⟩
          have := (h ⟨rfl, henum, hnullable, Or.inr hdefault⟩).2
          simp [hdefault] at this
        · rintro h ⟨-, henum, hnullable, hdefault⟩
          exact ⟨hnullable, hdefault.resolve_right fun hzero => h ⟨henum, hnullable, hzero⟩⟩

end Field

/-! ## Main result -/

/-- **Columns without a test.** A column that is set without a test has a mandatory member, as its tag
    says at its start, unless it is one of `Field.ResetWhenOmitted`; for those, and only for those, the
    member is optional all the same. -/
theorem unguarded_update_mandatory_iff (table : Table) (api : ApiConfig) (db : DbConfig)
    (structName : String) {field : Field}
    (hf : field ∈ (buildEntity table (api.tableConfig db structName) api).fieldsIn .update)
    (hkey : field.primaryKey = false) :
    (((UpdateEntry.ofField field).guard? = none → (RouteMember.ofField .update field).IsMandatory) ↔
      ¬ field.ResetWhenOmitted) ∧
    (((RouteMember.ofField .update field).IsMandatory ∧
        ∃ rest, (RouteMember.ofField .update field).tag.toText =
          mandatoryHead field.rawName ++ rest) ∨
      (¬ (RouteMember.ofField .update field).IsMandatory ∧
        ∃ rest, (RouteMember.ofField .update field).tag.toText =
          optionalHead field.rawName ++ rest)) := by
  have htyped : field.RouteTyped := routeTyped_of_mem_fields rfl (List.mem_filter.mp hf).1
  refine ⟨?_, RouteMember.exists_toText_tag_ofField hkey⟩
  rw [RouteMember.isMandatory_ofField_iff hkey]
  exact htyped.unguarded_required_iff hkey

/-- A score that starts at zero. -/
def scoreColumn : Column where
  name := "score"
  ordinal := 2
  dataType := "bigint"
  columnType := "bigint"
  nullable := false
  default := "0"
  length := 0
  precision := 19
  scale := 0
  primaryKey := false
  autoIncrement := false
  unsigned := false
  comment := ""
  indexes := []
  uniqueIndexes := []

/-- A table of scores by key. -/
def scoreTable : Table where
  name := "player"
  comment := ""
  columns := [{ scoreColumn with name := "id", ordinal := 1, default := "", primaryKey := true },
    scoreColumn]
  indexes := ⟨[], []⟩

/-- The score in the route view. -/
def scoreField : Field where
  name := "Score"
  type := .scalar .int64
  sourceType := .scalar .int64
  rawName := "score"
  columnType := "bigint"
  dataType := "bigint"
  default := "0"
  enums := ""
  label := ""
  comment := ""
  tag := "\x60json:\"score\" gorm:\"column:score;type:bigint;not null;default:0\"\x60"
  primaryKey := false
  nullable := false

/-- The score is set without a test, though a caller may leave it out. -/
theorem score_reset_when_omitted :
    (scoreField ∈ (buildEntity scoreTable (ApiConfig.tableConfig {} {} "") {}).fieldsIn .update ∧
      scoreField.primaryKey = false) ∧
    ¬ ((UpdateEntry.ofField scoreField).guard? = none →
      (RouteMember.ofField .update scoreField).IsMandatory) ∧
    (UpdateEntry.ofField scoreField).lines = ["updateMap[\"score\"] = req.Score"] ∧
    (RouteMember.ofField .update scoreField).tag.toText = "\x60json:\"score,optional\"\x60" := by
  have hmem : scoreField ∈
      (buildEntity scoreTable (ApiConfig.tableConfig {} {} "") {}).fieldsIn .update := by
    decide +kernel
  have hreset : scoreField.ResetWhenOmitted :=
    Or.inr ⟨⟨.int64, by decide, rfl⟩, by decide +kernel, rfl, rfl⟩
  refine ⟨⟨hmem, rfl⟩, fun h => ?_, by decide +kernel, by decide +kernel⟩
  exact (unguarded_update_mandatory_iff scoreTable {} {} "" hmem rfl).1.mp h hreset

end TableCodegen
