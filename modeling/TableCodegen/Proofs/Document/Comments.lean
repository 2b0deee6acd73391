import TableCodegen.Document.Render
import TableCodegen.Proofs.Document.RouteNames
import TableCodegen.Proofs.Field.View
import TableCodegen.Proofs.Naming.Derived

/-!
# Comments in route documents

The comments of a table and of its columns are free text, and go into the route document at three places: as
comments behind members, as labels in tags, and as what routes do, in strings. Line breaks and double quotes
are taken out before. Nothing takes a backtick out of a label, so that a label with a backtick ends its tag;
no other comment matters to the validator.

Results:

* `Entity.regular_buildEntity`: the entity of a table whose names are names.
* `key_members_commented`: the key of a table that was read always has a comment.
* `isSource_of_layOut`: a layout fails only with a block that the formatter refuses.
* `free_comments_accepted`: without a backtick in a label, the route document is accepted.
-/

namespace TableCodegen

open TableCodegen.Text

/-! ## Specification -/

/-- A name of letters, digits, underscores and dashes, with single slashes. -/
structure IsName (text : String) : Prop where
  chars : ∀ c ∈ text.toList, Unicode.isAlphanumeric c = true ∨ c ∈ ['_', '-', '/']
  slashes : ¬ ['/', '/'] <:+: text.toList

instance (text : String) : Decidable (IsName text) :=
  decidable_of_iff
    ((∀ c ∈ text.toList, Unicode.isAlphanumeric c = true ∨ c ∈ ['_', '-', '/']) ∧
      ¬ ['/', '/'] <:+: text.toList)
    ⟨fun h => ⟨h.1, h.2⟩, fun h => ⟨h.chars, h.slashes⟩⟩

/-- The names that a table, its entity and the settings give to a route document. -/
structure HasNames (table : Table) (config : GenerationConfig) (api : ApiConfig) : Prop where
  columns : ∀ column ∈ table.columns, IsName column.name
  model : IsName (buildEntity table config api).modelName
  route : IsName (buildEntity table config api).routeName
  service : IsName api.serviceName
  routePrefix : IsName api.routePrefix
  groupPrefix : IsName api.groupPrefix

/-- The labels that an entity writes into tags. -/
def Entity.labels (entity : Entity) : List String :=
  entity.fields.map (·.label) ++ entity.id.toList.map (·.label)

/-! ## Names -/

theorem IsName.tame {text : String} (h : IsName text) : Tame text.toList := by
  intro c hc hmem
  have hmarks : ∀ d ∈ lineMarks, Unicode.isAlphanumeric d = false ∧ d ∉ ['_', '-', '/'] := by decide
  rcases h.chars c hc with halpha | hother
  · rw [(hmarks c hmem).1] at halpha
    cases halpha
  · exact (hmarks c hmem).2 hother

theorem IsName.named {text : String} (h : IsName text) : Named text.toList :=
  ⟨h.tame, h.slashes⟩

/-- A name holds no blanks. -/
theorem IsName.solid {text : String} (h : IsName text) : ∀ c ∈ text.toList, isBlank c = false := by
  have hcodes : ∀ n ∈ blankCodes,
      Unicode.isAlphanumeric (Char.ofNat n) = false ∧ Char.ofNat n ∉ ['_', '-', '/'] := by decide +kernel
  intro c hc
  by_contra hblank
  rw [Bool.not_eq_false] at hblank
  obtain ⟨halpha, hother⟩ := hcodes c.toNat (mem_blankCodes hblank)
  rw [Char.ofNat_toNat] at halpha hother
  rcases h.chars c hc with hletter | hmark
  · rw [halpha] at hletter
    cases hletter
  · exact hother hmark

/-- A text that has no other marks than a tame text. -/
theorem Tame.of_marks {u v : List Char} (hv : Tame v) (h : ∀ d, Unicode.isMark d = true → d ∈ u → d ∈ v) :
    Tame u := by
  intro c hc hmem
  have hmarks : ∀ d ∈ lineMarks, Unicode.isMark d = true := by decide
  exact hv c (h c (hmarks c hmem) hc) hmem

theorem tame_pluralName {name : String} (h : Tame name.toList) : Tame (Naming.pluralName name).toList :=
  h.of_marks fun _ hd => Naming.mem_of_mem_pluralName hd

/-- The allowed values of a comment are digits and blanks between them. -/
theorem tagText_enumsOf (comment : String) : TagText (enumsOf comment).toList := by
  have hdigit : ∀ c ∈ ['\x60', '\n', '\r'], Unicode.isDecimalDigit c = false := by decide
  refine tagText_intercalate (by decide) fun text htext => ?_
  unfold Remark.ofComment at htext
  dsimp only at htext
  split at htext
  · obtain ⟨run, hrun, rfl⟩ := List.mem_map.mp htext
    intro c hc hmem
    rw [String.toList_ofList] at hc
    have hc := (mem_of_mem_runs hrun hc).2
    rw [hdigit c hmem] at hc
    cases hc
  · cases htext

/-! ## Entities of tables -/

theorem Field.regular_toApi {config : GenerationConfig} {column : Column} (hname : IsName column.name)
    (hlabel : tagMark ∉ ((Field.ofColumn config column).toApi config).label.toList) :
    ((Field.ofColumn config column).toApi config).Regular := by
  rw [Field.toApi_eq] at hlabel ⊢
  exact {
    name := hname.tame.of_marks fun _ hd => Naming.mem_of_mem_exportedName hd
    rawName := hname.tame.tagText
    enums := tagText_enumsOf column.comment
    label := hlabel }

theorem IdInfo.regular_ofField {key : Field} {tableComment : String} (hname : Tame key.name.toList)
    (hraw : Tame key.rawName.toList) (hlabel : tagMark ∉ (IdInfo.ofField tableComment key).label.toList) :
    (IdInfo.ofField tableComment key).Regular where
  name := hname
  namePlural := tame_pluralName hname
  rawName := hraw
  rawNamePlural := (tame_pluralName hraw).tagText
  label := hlabel

section

variable {table : Table} {config : GenerationConfig} {api : ApiConfig} (h : HasNames table config api)

include h

theorem tame_rawName {field : Field} (hfield : field ∈ (buildEntity table config api).fields) :
    Tame field.rawName.toList := by
  rw [fields_buildEntity, List.mem_map] at hfield
  obtain ⟨column, hcolumn, rfl⟩ := hfield
  rw [Field.toApi_eq]
  exact (h.columns column (List.mem_of_mem_filter hcolumn)).tame

/-- The entity of a table with names, if no label holds a backtick. -/
theorem Entity.regular_buildEntity
    (hlabels : ∀ label ∈ (buildEntity table config api).labels, tagMark ∉ label.toList) :
    (buildEntity table config api).Regular := by
  rw [Entity.labels, List.forall_mem_append, List.forall_mem_map, List.forall_mem_map] at hlabels
  have hfields : ∀ field ∈ (buildEntity table config api).fields, field.Regular := by
    intro field hfield
    have hlabel := hlabels.1 field hfield
    rw [fields_buildEntity, List.mem_map] at hfield
    obtain ⟨column, hcolumn, rfl⟩ := hfield
    exact Field.regular_toApi (h.columns column (List.mem_of_mem_filter hcolumn)) hlabel
  refine ⟨h.model.named, ?_, ?_, h.route.tame, ?_, fun id hid => ?_, hfields⟩
  · exact (h.model.tame.of_marks fun _ hd => Naming.mem_of_mem_lowerCamelName hd).tagText
  · exact h.model.tame.of_marks fun _ hd => mem_of_mem_lowerCase hd
  · show Tame (if api.enablePlural then Naming.pluralName (buildEntity table config api).routeName
      else (buildEntity table config api).routeName).toList
    split
    · exact tame_pluralName h.route.tame
    · exact h.route.tame
  · have hlabel := hlabels.2 id (Option.mem_toList.mpr hid)
    obtain ⟨key, hkey, rfl⟩ := Option.map_eq_some_iff.mp hid
    have hmem : key ∈ (buildEntity table config api).fields := List.mem_of_find?_eq_some hkey
    exact IdInfo.regular_ofField (hfields key hmem).name (tame_rawName h hmem) hlabel

theorem HasNames.regular : api.Regular :=
  ⟨h.service.named, h.routePrefix.tame, h.groupPrefix.tame⟩

end

/-! ## Comments of keys -/

theorem trimmed_trimmed (text : String) : trimmed (trimmed text) = trimmed text := by
  rw [trimmed, trimmed, String.toList_ofList, trim_trim]

theorem Remark.trimmed_label (comment : String) :
    trimmed (Remark.ofComment comment).label = (Remark.ofComment comment).label := by
  rw [Remark.ofComment]
  split <;> rw [trimmed, String.toList_ofList, trim_trim]

/-- The route view has the comment of the field, or its label. -/
theorem Field.comment_toApi (config : GenerationConfig) (field : Field) :
    (field.toApi config).comment = field.comment ∨ (field.toApi config).comment = field.label := by
  simp only [Field.toApi]
  generalize (if config.disableUnsigned then field.type.stripUnsigned else field.type) = type
  split
  case isTrue => exact Or.inl rfl
  split
  case isTrue => exact Or.inl rfl
  split
  case isTrue => exact Or.inr rfl
  split
  case isTrue => exact Or.inl rfl
  split <;> exact Or.inl rfl

theorem Field.trimmed_comment_toApi (config : GenerationConfig) {column : Column}
    (h : trimmed column.comment = column.comment) :
    trimmed ((Field.ofColumn config column).toApi config).comment =
      ((Field.ofColumn config column).toApi config).comment := by
  obtain hcomment | hcomment := (Field.ofColumn config column).comment_toApi config
  · rw [hcomment]
    exact h
  · rw [hcomment]
    exact Remark.trimmed_label column.comment

namespace IdInfo

/-- A key has a comment that is more than blanks: its own, or one that ends in a word. -/
theorem singleLine_comment_ne_empty {key : Field} (h : trimmed key.comment = key.comment)
    (tableComment : String) : singleLine (ofField tableComment key).comment ≠ "" := by
  by_cases hempty : key.comment = ""
  · have hcomment : (ofField tableComment key).comment = tableComment ++ defaultIdComment := by
      rw [ofField, if_pos (by rw [hempty]; rfl)]
    rw [hcomment, Ne, singleLine_eq_empty_iff, String.toList_append]
    intro hblank
    have hletter : isBlank 'I' = true := hblank 'I' (List.mem_append_right _ (by decide))
    exact absurd hletter (by decide)
  · have hcomment : (ofField tableComment key).comment = key.comment := by
      rw [ofField, if_neg (by rwa [String.isEmpty_iff])]
    rw [hcomment]
    exact singleLine_ne_empty_of_trimmed h hempty

/-- The members that name rows by key have the comment of the key behind them. -/
theorem toText_of_comment_ne_empty {id : IdInfo} (h : singleLine id.comment ≠ "") {member : RouteMember}
    (hmember : member ∈ [id.responseMember, id.pathMember, id.batchMember]) :
    member.toText = member.name ++ " " ++ member.type.toText ++ " " ++ member.tag.toText ++ " // " ++
      singleLine id.comment := by
  have hcomment : member.comment = singleLine id.comment := by
    simp only [List.mem_cons, List.not_mem_nil, or_false] at hmember
    obtain rfl | rfl | rfl := hmember <;> rfl
  rw [RouteMember.toText, hcomment, withComment, if_neg (by rwa [String.isEmpty_iff])]

end IdInfo

/-- The key of a table that was read has a comment behind it wherever it stands in the route document. -/
theorem key_members_commented (enableInitialism : Bool) (name comment : String) (indexRows : List IndexRow)
    (columnRows : List ColumnRow) (config : GenerationConfig) (api : ApiConfig) :
    let entity := buildEntity (Table.ofRows enableInitialism name comment indexRows columnRows) config api
    ∀ id ∈ entity.id, ∀ member ∈ [id.responseMember, id.pathMember, id.batchMember],
      member.toText = member.name ++ " " ++ member.type.toText ++ " " ++ member.tag.toText ++ " // " ++
        singleLine id.comment := by
  intro entity id hid member hmember
  obtain ⟨key, hkey, rfl⟩ := Option.map_eq_some_iff.mp hid
  have hfield : key ∈ entity.fields := List.mem_of_find?_eq_some hkey
  rw [fields_buildEntity, List.mem_map] at hfield
  obtain ⟨column, hcolumn, rfl⟩ := hfield
  obtain ⟨row, -, rfl⟩ := List.mem_map.mp (List.mem_of_mem_filter hcolumn)
  have hcomment : trimmed (Column.ofRow row indexRows).comment = (Column.ofRow row indexRows).comment :=
    trimmed_trimmed row.comment
  have htrimmed := Field.trimmed_comment_toApi config hcomment
  exact IdInfo.toText_of_comment_ne_empty (IdInfo.singleLine_comment_ne_empty htrimmed _) hmember

/-! ## Failures of a layout -/

/-- The cause of a failure is that the formatter refused a block. -/
def Failure.IsSource (failure : Failure) : Prop :=
  ∃ detail buffer, failure.cause = .source detail buffer

theorem isSource_of_text {formatter : SourceFormatter} {piece : Piece} {failure : Failure}
    (h : piece.text formatter = .error failure) : failure.IsSource := by
  cases piece with
  | blank => cases h
  | line depth text => cases h
  | block source =>
    change formatBlock formatter source = .error failure at h
    unfold formatBlock at h
    split at h
    · cases h
    · cases h
      exact ⟨_, _, rfl⟩

theorem isSource_of_mapM {formatter : SourceFormatter} {pieces : List Piece} {failure : Failure}
    (h : pieces.mapM (·.text formatter) = .error failure) : failure.IsSource := by
  induction pieces with
  | nil => cases h
  | cons piece pieces ih =>
    rw [List.mapM_cons] at h
    cases hpiece : piece.text formatter with
    | error e =>
      rw [hpiece] at h
      cases h
      exact isSource_of_text hpiece
    | ok text =>
      rw [hpiece] at h
      cases hrest : pieces.mapM (·.text formatter) with
      | error e =>
        rw [hrest] at h
        cases h
        exact ih hrest
      | ok texts =>
        rw [hrest] at h
        cases h

/-- A layout fails only with a block that the formatter refuses. -/
theorem isSource_of_layOut {formatter : SourceFormatter} {document : String} {failure : Failure}
    (h : layOut formatter document = .error failure) : failure.IsSource := by
  unfold layOut at h
  cases hpieces : (pieces document.toList).mapM (·.text formatter) with
  | error e =>
    rw [hpieces] at h
    cases h
    exact isSource_of_mapM hpieces
  | ok texts =>
    rw [hpieces] at h
    cases h

theorem formatRoutes_of_ok {validator : RouteValidator} {document : String} (h : validator document = .ok ())
    (formatter : SourceFormatter) : formatRoutes validator formatter document = layOut formatter document := by
  unfold formatRoutes
  rw [h]
  rfl

theorem exists_of_inStep {α : Type} {step : String} {result : Except Failure α} {failure : Failure}
    (h : inStep step result = .error failure) : ∃ inner, result = .error inner ∧ failure = inner.within step := by
  cases result with
  | ok a => cases h
  | error inner =>
    cases h
    exact ⟨inner, rfl, rfl⟩

/-- Rendering an accepted route document fails only with a block that the formatter refuses. -/
theorem isSource_of_renderRoutes {entity : Entity} {api : ApiConfig} {validator : RouteValidator}
    {formatter : SourceFormatter} {failure : Failure}
    (hvalid : validator (RouteDocument.ofEntity entity api).toText = .ok ())
    (h : renderRoutes entity api validator formatter = .error failure) : failure.IsSource := by
  unfold renderRoutes at h
  rw [formatRoutes_of_ok hvalid] at h
  obtain ⟨inner, hinner, rfl⟩ := exists_of_inStep h
  have hsource : inner.IsSource := isSource_of_layOut hinner
  exact hsource

/-! ## Documents with free comments -/

/-- **Free comments.** Let the names be names, and let no label of the entity hold a backtick. Then the
validator accepts the route document, whatever else the comments of the table and of its columns hold, and
rendering it fails only with a block that the formatter refuses. -/
theorem free_comments_accepted (table : Table) (config : GenerationConfig) (api : ApiConfig)
    (hnames : HasNames table config api)
    (hlabels : ∀ label ∈ (buildEntity table config api).labels, tagMark ∉ label.toList) :
    RouteValidator.delimiter (RouteDocument.ofEntity (buildEntity table config api) api).toText = .ok () ∧
      ∀ formatter failure,
        renderRoutes (buildEntity table config api) api .delimiter formatter = .error failure →
          failure.IsSource := by
  have hdocument := RouteDocument.regular_ofEntity (Entity.regular_buildEntity hnames hlabels) hnames.regular
  exact ⟨hdocument.delimiter, fun _ _ => isSource_of_renderRoutes hdocument.delimiter⟩

/-- A table whose comments hold brackets, quotation marks, slashes, backslashes and line breaks, and a
backtick that is in no label. -/
def noisyTable : Table where
  name := "user_note"
  comment := "notes \x7b( \" // \n\x60"
  columns := [
    { name := "id", ordinal := 1, dataType := "bigint", columnType := "bigint", nullable := false, default := "",
      length := 0, precision := 19, scale := 0, primaryKey := true, autoIncrement := true, unsigned := false,
      comment := "key ) \x7d \\", indexes := [], uniqueIndexes := [] },
    { name := "state", ordinal := 2, dataType := "int", columnType := "int", nullable := false, default := "",
      length := 0, precision := 10, scale := 0, primaryKey := false, autoIncrement := false, unsigned := false,
      comment := "state \" // (（0 \x7b\x60 1\r\n）\x60(", indexes := [], uniqueIndexes := [] }]
  indexes := ⟨[], []⟩

def noisyApi : ApiConfig := { serviceName := "main-api", routePrefix := "/api/v1" }

def noisyEntity : Entity := buildEntity noisyTable {} noisyApi

theorem noisy_comments_accepted :
    (HasNames noisyTable {} noisyApi ∧ ∀ label ∈ noisyEntity.labels, tagMark ∉ label.toList) ∧
    RouteValidator.delimiter (RouteDocument.ofEntity noisyEntity noisyApi).toText = .ok () := by
  have hnames : HasNames noisyTable {} noisyApi :=
    ⟨by decide +kernel, by decide +kernel, by decide +kernel, by decide +kernel, by decide +kernel,
      by decide +kernel⟩
  have hlabels : ∀ label ∈ (buildEntity noisyTable {} noisyApi).labels, tagMark ∉ label.toList := by
    decide +kernel
  exact ⟨⟨hnames, hlabels⟩, (free_comments_accepted noisyTable {} noisyApi hnames hlabels).1⟩

end TableCodegen
