import TableCodegen.Document.Gist
import TableCodegen.Proofs.Gist.Conversion

/-!
# Stored pointers in conversion functions

A conversion function takes the value behind a stored pointer, or a member of it, and must do so only where
the pointer is not nil. Here the code of a function is taken as expressions and statements, so that it can
be said what is read through and behind which tests, and its text is the text of this code.

Results:

* `ConvertMember.stepLines_code`, `Entity.toText_conversion`: the text of a conversion function is that of
  its code.
* `ConvertMember.readsOnly_code`: the code of a column reads through no stored member but its own.
* `ConvertMember.testsNil_code_iff`: it does so behind a test for nil, except for the time of a deletion.
* `formattedFrom_of_renderGists`: rendered gists are formatted one by one.
* `stored_pointers_tested_iff`: the columns whose stored pointers are read behind a test for nil.

**Deviation.** The time of a deletion is a pointer like every other stored type when its column has a
default, but the test before it is whether the time is valid, and that already reads through the pointer.
-/

namespace TableCodegen

/-! ## Code -/

/-- An expression of a conversion function. -/
inductive CodeExpr where
  /-- A variable, a package, a function of the language or a literal. -/
  | name (text : String)
  /-- A member or a method of a value, also behind a pointer. -/
  | select (value : CodeExpr) (member : String)
  /-- The value behind a pointer. -/
  | pointee (value : CodeExpr)
  /-- A pointer to a value. -/
  | address (value : CodeExpr)
  /-- A call without arguments. -/
  | call (function : CodeExpr)
  /-- A call with an argument, or with a pair of them. -/
  | apply (function argument : CodeExpr)
  | pair (first second : CodeExpr)
  | compare (left : CodeExpr) (operator : String) (right : CodeExpr)
  deriving Repr, DecidableEq

namespace CodeExpr

/-- The expression as it is written. -/
def toText : CodeExpr → String
  | name text => text
  | select value member => value.toText ++ "." ++ member
  | pointee value => "*" ++ value.toText
  | address value => "&" ++ value.toText
  | call function => function.toText ++ "()"
  | apply function argument => function.toText ++ "(" ++ argument.toText ++ ")"
  | pair first second => first.toText ++ ", " ++ second.toText
  | compare left operator right => left.toText ++ " " ++ operator ++ " " ++ right.toText

/-- The values that an expression reads through: those of which it takes what they point to, or a member. -/
def readsThrough : CodeExpr → List CodeExpr
  | name _ => []
  | select value _ | pointee value => value :: value.readsThrough
  | address value => value.readsThrough
  | call function => function.readsThrough
  | apply function argument => function.readsThrough ++ argument.readsThrough
  | pair first second => first.readsThrough ++ second.readsThrough
  | compare left _ right => left.readsThrough ++ right.readsThrough

/-- A member of the stored row. -/
def stored (member : String) : CodeExpr :=
  .select (.name "src") member

/-- A member of the route view. -/
def built (member : String) : CodeExpr :=
  .select (.name "dst") member

/-- The test that a pointer is not nil. -/
def notNil (value : CodeExpr) : CodeExpr :=
  .compare value "!=" (.name nilLiteral)

end CodeExpr

/-- A statement of a conversion function. -/
inductive CodeStatement where
  | assign (target value : CodeExpr)
  /-- A statement that runs only if a test holds. -/
  | behind (test : CodeExpr) (body : CodeStatement)
  deriving Repr, DecidableEq

/-- A value that is read through, and the tests that hold where it is. -/
structure GuardedRead where
  value : CodeExpr
  tests : List CodeExpr
  deriving Repr, DecidableEq

namespace CodeStatement

/-- The lines of a statement. -/
def lines : CodeStatement → List String
  | assign target value => [target.toText ++ " = " ++ value.toText]
  | behind test body => ["if " ++ test.toText ++ " \x7b"] ++ body.lines.map (indented 1) ++ ["\x7d"]

/-- What a statement behind some tests reads through. A test is no test of itself. -/
def reads (tests : List CodeExpr) : CodeStatement → List GuardedRead
  | assign target value => (target.readsThrough ++ value.readsThrough).map (⟨·, tests⟩)
  | behind test body => test.readsThrough.map (⟨·, tests⟩) ++ body.reads (test :: tests)

end CodeStatement

/-- The code for one member of the route view: the value that it starts with, and the statement that sets
    it afterwards. -/
structure MemberCode where
  member : String
  initial : CodeExpr
  statement? : Option CodeStatement
  deriving Repr, DecidableEq

namespace MemberCode

/-- The line that starts the member. -/
def initialLine (code : MemberCode) : String :=
  code.member ++ ": " ++ code.initial.toText ++ ","

/-- The lines that set the member after the start. -/
def lines (code : MemberCode) : List String :=
  code.statement?.toList.flatMap CodeStatement.lines

/-- What the code reads through. -/
def reads (code : MemberCode) : List GuardedRead :=
  code.initial.readsThrough.map (⟨·, []⟩) ++ code.statement?.toList.flatMap (CodeStatement.reads [])

/-- Of the stored members, the code reads through the named one at most. -/
def ReadsOnly (code : MemberCode) (member : String) : Prop :=
  ∀ read ∈ code.reads, ∀ other, read.value = .stored other → other = member

/-- The code reads through a stored member only behind a test that the member is not nil. -/
def TestsNil (code : MemberCode) (member : String) : Prop :=
  ∀ read ∈ code.reads, read.value = .stored member → CodeExpr.notNil (.stored member) ∈ read.tests

end MemberCode

/-- The conversion function of an entity, from the code for its members. -/
def Entity.conversionText (entity : Entity) (packageName suffix : String) (codes : List MemberCode) :
    String :=
  let function := "Convert" ++ entity.modelName ++ "To" ++ suffix
  let source := "model." ++ Naming.replaceInitialisms entity.structName
  let target := packageName ++ "." ++ entity.modelName
  textOfLines (
    ["// " ++ function ++ " 将 " ++ source ++ " 转换为 " ++ target,
      "func " ++ function ++ "(src *" ++ source ++ ") *" ++ target ++ " \x7b",
      indented 1 ("dst := &" ++ target ++ "\x7b")] ++
      codes.map (fun code => indented 2 code.initialLine) ++ [indented 1 "\x7d"] ++
      codes.flatMap (fun code => code.lines.map (indented 1)) ++
      ["", indented 1 "return dst", "\x7d"])

/-! ## The code of conversions -/

/-- The test of a stored member. -/
def StoredGuard.expr (source : String) : StoredGuard → CodeExpr
  | notNil => .notNil (.stored source)
  | valid => .select (.stored source) "Valid"
  | nonEmpty => .compare (.apply (.name "len") (.stored source)) ">" (.name "0")

/-- The value that is taken from a stored member. -/
def StoredValue.expr (source : String) : StoredValue → CodeExpr
  | member => .stored source
  | pointee => .pointee (.stored source)
  | millis => .call (.select (.stored source) "UnixMilli")
  | deletionMillis => .call (.select (.select (.stored source) "Time") "UnixMilli")

/-- The statement of a step. -/
def ConversionStep.statement (target source : String) : ConversionStep → CodeStatement
  | assign guard value => .behind (guard.expr source) (.assign (.built target) (value.expr source))
  | decode guard => .behind (guard.expr source) (.assign (.name "_")
      (.apply (.select (.name "json") "Unmarshal")
        (.pair (StoredValue.member.expr source) (.address (.built target)))))

/-- The code of a member: a copy starts with the stored value, all others with their zero literal. -/
def ConvertMember.code (member : ConvertMember) : MemberCode where
  member := member.target
  initial :=
    if member.conversion = .copy then StoredValue.member.expr member.source else .name member.zero
  statement? := member.conversion.step?.map (·.statement member.target member.source)

theorem StoredGuard.toText_expr (source : String) (guard : StoredGuard) :
    (guard.expr source).toText = guard.toText source := by
  apply String.toList_inj.mp
  cases guard <;>
    simp [expr, CodeExpr.notNil, CodeExpr.stored, CodeExpr.toText, toText, nilLiteral]

theorem StoredValue.toText_expr (source : String) (value : StoredValue) :
    (value.expr source).toText = value.toText source := by
  apply String.toList_inj.mp
  cases value <;> simp [expr, CodeExpr.stored, CodeExpr.toText, toText]

/-- The statement of a step is written as the step is. -/
theorem ConvertMember.lines_statement (member : ConvertMember) (step : ConversionStep) :
    (step.statement member.target member.source).lines =
      ["if " ++ (member.stepTexts step).1 ++ " \x7b", indented 1 (member.stepTexts step).2, "\x7d"] := by
  have hbuilt : (CodeExpr.built member.target).toText = "dst." ++ member.target := by
    apply String.toList_inj.mp
    simp [CodeExpr.built, CodeExpr.toText]
  cases step with
  | assign guard value =>
    simp [ConversionStep.statement, CodeStatement.lines, stepTexts, StoredGuard.toText_expr,
      StoredValue.toText_expr, hbuilt]
  | decode guard =>
    have hcall : (CodeExpr.name "_").toText ++ " = " ++ (CodeExpr.apply
        (.select (.name "json") "Unmarshal")
        (.pair (StoredValue.member.expr member.source) (.address (.built member.target)))).toText =
        (member.stepTexts (.decode guard)).2 := by
      apply String.toList_inj.mp
      simp [stepTexts, CodeExpr.toText, StoredValue.toText_expr, hbuilt]
    rw [ConversionStep.statement, CodeStatement.lines, CodeStatement.lines, hcall,
      StoredGuard.toText_expr]
    rfl

theorem ConvertMember.stepLines_code (member : ConvertMember) :
    member.code.lines = member.stepLines := by
  rw [MemberCode.lines, code, stepLines]
  cases member.conversion.step? with
  | none => rfl
  | some step => simp [lines_statement]

theorem ConvertMember.initialLine_code (member : ConvertMember) :
    member.code.initialLine = member.initialLine := by
  have hinitial : member.code.initial.toText = member.initialValue := by
    rw [code, initialValue]
    cases member.conversion with
    | copy => exact StoredValue.toText_expr member.source .member
    | time | deletion | pointee | decoded => rfl
  rw [MemberCode.initialLine, hinitial]
  rfl

/-- The text of a conversion function is that of the code for its members. -/
theorem Entity.toText_conversion (entity : Entity) (storage : List Field) (packageName suffix : String) :
    (entity.conversion storage packageName suffix).toText =
      entity.conversionText packageName suffix
        ((entity.convertMembers storage).map ConvertMember.code) := by
  have hmembers : (entity.conversion storage packageName suffix).members = entity.convertMembers storage :=
    rfl
  rw [ConversionFunction.toText, ConversionFunction.lines, hmembers, conversionText]
  simp only [List.map_map, List.flatMap_map, Function.comp_def, ConvertMember.initialLine_code,
    ConvertMember.stepLines_code]
  rfl

/-! ## Tests for nil -/

namespace CodeExpr

@[simp] theorem readsThrough_stored (member : String) : (stored member).readsThrough = [.name "src"] := rfl

@[simp] theorem readsThrough_built (member : String) : (built member).readsThrough = [.name "dst"] := rfl

@[simp] theorem readsThrough_notNil (value : CodeExpr) : (notNil value).readsThrough = value.readsThrough :=
  List.append_nil _

@[simp] theorem stored_inj {a b : String} : stored a = stored b ↔ a = b := by
  simp [stored]

@[simp] theorem name_ne_stored (text member : String) : name text ≠ stored member := by
  simp [stored]

@[simp] theorem select_ne_stored (source member other : String) :
    select (stored source) member ≠ stored other := by
  simp [stored]

end CodeExpr

namespace ConvertMember

variable (member : ConvertMember)

theorem readsOnly_code : member.code.ReadsOnly member.source := by
  obtain ⟨target, source, conversion, zero⟩ := member
  cases conversion <;>
    simp [MemberCode.ReadsOnly, code, MemberCode.reads, Conversion.step?, ConversionStep.statement,
      CodeStatement.reads, CodeExpr.readsThrough, StoredGuard.expr, StoredValue.expr]

/-- A stored member is read through behind a test for nil, unless it is the time of a deletion: the test of
    that takes a member of it. -/
theorem testsNil_code_iff :
    member.code.TestsNil member.source ↔ member.conversion ≠ .deletion := by
  obtain ⟨target, source, conversion, zero⟩ := member
  cases conversion <;>
    simp [MemberCode.TestsNil, code, MemberCode.reads, Conversion.step?, ConversionStep.statement,
      CodeStatement.reads, CodeExpr.readsThrough, StoredGuard.expr, StoredValue.expr]

end ConvertMember

/-! ## Times of deletions behind pointers -/

/-- The column holds the time of a deletion, and has a default. -/
def Column.IsDefaultedDeletion (column : Column) : Prop :=
  column.name = deletedAtColumn ∧ column.default ≠ "" ∧
    TypeFamily.ofKeyword? (normalKeyword column.dataType) = some .temporal

/-- Only times can become times of deletions. -/
theorem Field.storedType_ne_deletedAt {field : Field} {s : Scalar} (hs : s ∈ columnScalars)
    (htime : s ≠ .time) (htype : field.type = .scalar s) :
    ∃ t, t ≠ .deletedAt ∧ field.storedType = .scalar t := by
  simp only [storedType, htype, MemberType.stripUnsigned, MemberType.isOf, MemberType.scalar?, fixedInt]
  cases s with
  | time => exact absurd rfl htime
  | jsonMap | storedJson | deletedAt => exact absurd hs (by decide)
  | _ => cases field.enums.isEmpty <;> simp [Scalar.signed]

/-- The stored type of a column is a pointer to the time of a deletion. -/
theorem Field.type_toStorage_eq_iff {config : GenerationConfig} (hplain : config.nullability = .plain)
    (column : Column) :
    (ofColumn config column).toStorage.type = .pointer .deletedAt ↔ column.IsDefaultedDeletion := by
  have hname : (ofColumn config column).rawName = column.name := rfl
  have hdefault : (ofColumn config column).hasDefault = true ↔ column.default ≠ "" := by
    simp [hasDefault, ofColumn]
  have htemporal : TypeFamily.ofKeyword? (normalKeyword column.dataType) = some .temporal ↔
      (ofColumn config column).type = .scalar .time := by
    rw [← isTemporal_ofColumn hplain, IsTemporal]
    show _ ↔ TypeFamily.ofKeyword? (normalKeyword (Text.asciiLower column.dataType)) = _
    rw [normalKeyword_asciiLower]
  rw [Column.IsDefaultedDeletion, htemporal, ← hdefault, ← hname]
  generalize hfield : ofColumn config column = field
  cases hjson : field.isJson with
  | true =>
    have htype : field.type = .scalar .string := hfield ▸ type_ofColumn_of_isJson hplain column (hfield ▸ hjson)
    simp [type_toStorage_of_isJson hjson, htype]
  | false =>
    rw [type_toStorage hjson]
    obtain htype | ⟨s, hs, htype, -⟩ := hfield ▸ type_ofColumn hplain column
    · simp [storedType_of_unknown htype, htype, MemberType.toPointer]
    · by_cases htime : s = .time
      · rw [htime] at htype
        rw [storedType_of_time htype]
        cases hdeleted : field.rawName == deletedAtColumn <;> cases field.hasDefault <;>
          simp_all [MemberType.toPointer, Scalar.isReference, Scalar.shape]
      · obtain ⟨t, ht, hstored⟩ := storedType_ne_deletedAt hs htime htype
        rw [hstored, htype]
        cases field.hasDefault <;> cases hreference : t.isReference <;>
          simp [MemberType.toPointer, htime, ht, hreference]

/-- The code for a column reads a pointer without a test for nil just if it reads the time of a deletion
    behind a pointer. -/
theorem Conversion.isPointer_deletion_iff (config : GenerationConfig) (field : Field) :
    (field.toStorage.type.isPointer = true ∧ between (field.toApi config) field.toStorage = .deletion) ↔
      field.toStorage.type = .pointer .deletedAt := by
  cases hjson : field.isJson with
  | true => simp [Field.type_toStorage_of_isJson hjson, MemberType.isPointer]
  | false =>
    have happi : (field.toApi config).isJson = false := by rw [Field.isJson_toApi, hjson]
    rw [between, happi]
    cases field.toStorage.type with
    | pointer s =>
      cases s <;> simp [MemberType.isPointer, MemberType.isOf, MemberType.scalar?, MemberType.isTime]
    | scalar | sqlNull | gureguNull | unknown => simp [MemberType.isPointer]

/-- The test of the stored pointer of a column, if it has one. -/
theorem Field.testsNil_views_iff {config : GenerationConfig} (hplain : config.nullability = .plain)
    (column : Column) :
    ((ofColumn config column).toStorage.type.isPointer = true →
        (ConvertMember.ofFields ((ofColumn config column).toApi config)
          (ofColumn config column).toStorage).code.TestsNil (ofColumn config column).toStorage.name) ↔
      ¬ column.IsDefaultedDeletion := by
  have htests := ConvertMember.testsNil_code_iff
    (.ofFields ((ofColumn config column).toApi config) (ofColumn config column).toStorage)
  rw [← type_toStorage_eq_iff hplain, ← Conversion.isPointer_deletion_iff config, not_and]
  exact imp_congr_right fun _ => htests

/-! ## Rendered conversions -/

/-- The text is what the formatter makes of a source, without blanks at its end. -/
def FormattedFrom (formatter : SourceFormatter) (source text : String) : Prop :=
  ∃ formatted, formatter source = .ok formatted ∧ text = String.ofList (Text.trimEnd formatted.toList)

section Render

variable {entity : Entity} {storage : List Field} {formatter : SourceFormatter}

theorem Entity.formattedFrom_of_renderGist {kind : GistKind} {text : String}
    (h : entity.renderGist storage formatter kind = .ok text) :
    FormattedFrom formatter (entity.gistText storage kind) text := by
  rw [renderGist] at h
  cases hformatted : formatter (entity.gistText storage kind) with
  | error failure =>
    rw [hformatted] at h
    cases h
  | ok formatted =>
    rw [hformatted] at h
    cases h
    exact ⟨formatted, hformatted, rfl⟩

theorem exists_of_bind_eq_ok {α β : Type} {result : Except Failure α} {next : α → Except Failure β} {b : β}
    (h : result >>= next = .ok b) : ∃ a, result = .ok a ∧ next a = .ok b := by
  cases result with
  | error failure => cases h
  | ok a => exact ⟨a, rfl, h⟩

/-- Gists that are rendered have been formatted, each on its own. -/
theorem formattedFrom_of_renderGists {gists : Gists}
    (h : renderGists entity storage formatter = .ok gists) (kind : GistKind) :
    FormattedFrom formatter (entity.gistText storage kind) (gists.get kind) := by
  apply Entity.formattedFrom_of_renderGist
  rw [renderGists] at h
  split at h
  · cases h
  · obtain ⟨convertApi, happi, h⟩ := exists_of_bind_eq_ok h
    obtain ⟨convertRpc, hrpc, h⟩ := exists_of_bind_eq_ok h
    obtain ⟨updateMap, hupdate, h⟩ := exists_of_bind_eq_ok h
    obtain ⟨filter, hfilter, h⟩ := exists_of_bind_eq_ok h
    cases h
    cases kind with
    | convertApi => exact happi
    | convertRpc => exact hrpc
    | updateMap => exact hupdate
    | filter => exact hfilter

end Render

/-! ## Main result -/

/-- **Nil tests.** Rendered conversion functions are formatted from code that has one part for each column
    that settings keep, in column order. The part of a column reads through no stored member but that of the
    column, and if this is a pointer, it reads through it only behind a test that it is not nil; unless the
    column holds the time of a deletion and has a default. -/
theorem stored_pointers_tested_iff (table : Table) (api : ApiConfig) (db : DbConfig) (structName : String) :
    let config := api.tableConfig db structName
    let entity := buildEntity table config api
    let storage := storageFields (buildFields config table.columns)
    let columns := table.columns.filter fun column => !config.isIgnored column.name
    let codes := (entity.convertMembers storage).map ConvertMember.code
    (∀ formatter gists, renderGists entity storage formatter = .ok gists →
      FormattedFrom formatter (entity.conversionText "types" "API" codes) gists.convertApi ∧
      FormattedFrom formatter (entity.conversionText "pb" "RPC" codes) gists.convertRpc) ∧
    storage.length = columns.length ∧ codes.length = columns.length ∧
    ∀ (i : Nat) (column : Column), columns[i]? = some column →
      ∃ stored code, storage[i]? = some stored ∧ codes[i]? = some code ∧ code.ReadsOnly stored.name ∧
        ((stored.type.isPointer = true → code.TestsNil stored.name) ↔ ¬ column.IsDefaultedDeletion) := by
  intro config entity storage columns codes
  refine ⟨fun formatter gists h => ?_, ?_⟩
  · -- the text of a conversion is that of its code
    have happi : FormattedFrom formatter (entity.conversion storage "types" "API").toText gists.convertApi :=
      formattedFrom_of_renderGists h .convertApi
    have hrpc : FormattedFrom formatter (entity.conversion storage "pb" "RPC").toText gists.convertRpc :=
      formattedFrom_of_renderGists h .convertRpc
    rw [Entity.toText_conversion] at happi hrpc
    exact ⟨happi, hrpc⟩
  · have hstorage : storage = columns.map fun column => (Field.ofColumn config column).toStorage :=
      storageFields_buildFields config table.columns
    have hcodes : codes = columns.map fun column =>
        (ConvertMember.ofFields ((Field.ofColumn config column).toApi config)
          (Field.ofColumn config column).toStorage).code := by
      show (entity.convertMembers storage).map ConvertMember.code = _
      rw [convertMembers_buildEntity, List.map_map]
      rfl
    have hplain : config.nullability = .plain := rfl
    rw [hstorage, hcodes]
    refine ⟨List.length_map _, List.length_map _, fun i column hcolumn => ?_⟩
    refine ⟨_, _, ?_, ?_, ConvertMember.readsOnly_code _, Field.testsNil_views_iff hplain column⟩
    all_goals rw [List.getElem?_map, hcolumn, Option.map_some]

/-- The time of a deletion, with a default for rows that are not deleted. -/
def defaultedDeletionColumn : Column :=
  { deletedColumn with default := "1970-01-01 00:00:00" }

/-- A table whose rows have a time of deletion from the start. -/
def defaultedDeletionTable : Table :=
  { visitTable with columns := [defaultedDeletionColumn] }

/-- The time of a deletion behind a pointer is read without a test for nil. -/
theorem defaulted_deletion_untested :
    let config := ApiConfig.tableConfig {} {} ""
    let entity := buildEntity defaultedDeletionTable config {}
    let storage := storageFields (buildFields config defaultedDeletionTable.columns)
    ∃ stored code, storage[0]? = some stored ∧
      ((entity.convertMembers storage).map ConvertMember.code)[0]? = some code ∧
      stored.type = .pointer .deletedAt ∧ ¬ code.TestsNil stored.name ∧
      code.lines = ["if src.DeletedAt.Valid \x7b", "\tdst.DeletedAt = src.DeletedAt.Time.UnixMilli()",
        "\x7d"] := by
  intro config entity storage
  have hdeletion : defaultedDeletionColumn.IsDefaultedDeletion :=
    ⟨rfl, by decide, by decide +kernel⟩
  obtain ⟨-, -, -, hcolumns⟩ := stored_pointers_tested_iff defaultedDeletionTable {} {} ""
  obtain ⟨stored, code, hstored, hcode, -, hiff⟩ :=
    hcolumns 0 defaultedDeletionColumn (by decide +kernel)
  have htype : storage[0]?.map (·.type) = some (.pointer .deletedAt) := by decide +kernel
  have hlines : ((entity.convertMembers storage).map ConvertMember.code)[0]?.map (·.lines) =
      some ["if src.DeletedAt.Valid \x7b", "\tdst.DeletedAt = src.DeletedAt.Time.UnixMilli()", "\x7d"] := by
    decide +kernel
  rw [hstored] at htype
  rw [hcode] at hlines
  have hpointer : stored.type = .pointer .deletedAt := Option.some.inj htype
  refine ⟨stored, code, hstored, hcode, hpointer, fun htests => ?_, Option.some.inj hlines⟩
  exact hiff.mp (fun _ => htests) hdeletion

end TableCodegen
