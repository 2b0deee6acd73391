import Mathlib.Data.List.Nodup
import TableCodegen.Proofs.MemberType
import TableCodegen.Proofs.Tag.Reading

/-!
# Tags of columns

What the tags of a column are read as. The names of a column stand for themselves in a value, but a dialect that
shows the default and the comment writes them as they are. So the combined tag is one tag with one pair for each
enabled dialect exactly when these two texts hold no backtick and no line break, and are literals.

Results:

* `TagDialect.fitsTag_value_iff`: the value of a column's tag.
* `combinedTag_reads`: what the combined tag is read as.
-/

namespace TableCodegen

open TableCodegen.Text

/-! ## Specification -/

/-- A column whose names stand for themselves in a value. -/
structure Column.PlainNames (column : Column) : Prop where
  name : Unmarked column.name.toList
  columnType : Unmarked column.columnType.toList
  dataType : Unmarked column.dataType.toList
  indexes : ∀ index ∈ column.indexes, Unmarked index.name.toList
  uniqueIndexes : ∀ index ∈ column.uniqueIndexes, Unmarked index.name.toList

/-- The dialect shows the default and the comment. -/
def TagDialect.showsTexts : TagDialect → Bool
  | json | xml | gorose => false
  | gorm | xorm | beego | gormV2 => true

/-- The default and the comment fit the tag, as far as they are shown. -/
def Column.TextsFit (config : GenerationConfig) (column : Column) : Prop :=
  (∃ dialect ∈ enabledDialects config, dialect.showsTexts = true) →
    FitsTag column.default.toList ∧ FitsTag column.comment.toList

/-! ## Texts without marks -/

theorem Unmarked.append {u v : List Char} (hu : Unmarked u) (hv : Unmarked v) : Unmarked (u ++ v) :=
  List.forall_mem_append.mpr ⟨hu, hv⟩

theorem unmarked_append {u v : String} (hu : Unmarked u.toList) (hv : Unmarked v.toList) :
    Unmarked (u ++ v).toList := by
  rw [String.toList_append]
  exact hu.append hv

theorem unmarked_intercalate {texts : List String} (h : ∀ text ∈ texts, Unmarked text.toList) :
    Unmarked (",".intercalate texts).toList := by
  rw [String.toList_intercalate]
  refine (intercalate_iff (List.forall_mem_nil _) fun u v => ?_).mpr (List.forall_mem_map.mpr h)
  rw [Unmarked, List.forall_mem_append, List.forall_mem_cons]
  exact and_congr_right fun _ => and_iff_right (by decide)

theorem unmarked_of_isDigit {cs : List Char} (h : ∀ c ∈ cs, c.isDigit = true) : Unmarked cs := by
  intro c hc hmem
  have hmarks : ∀ d ∈ valueMarks, d.isDigit = false := by decide
  simpa [hmarks c hmem] using h c hc

theorem unmarked_toString (n : Int64) : Unmarked (toString n).toList := by
  have hdigits (m : Nat) : Unmarked m.repr.toList := by
    rw [Nat.toList_repr]
    exact unmarked_of_isDigit fun c hc => Nat.isDigit_of_mem_toDigits (by decide) (by decide) hc
  change Unmarked (Int.repr n.toInt).toList
  cases n.toInt with
  | ofNat m => exact hdigits m
  | negSucc m => exact unmarked_append (by decide) (hdigits (m + 1))

/-- A capital becomes a letter, and all else stays. -/
theorem eq_of_toLower_mem {c : Char} (h : c.toLower ∈ valueMarks) : c.toLower = c := by
  by_cases hcapital : c.val ≥ 'A'.val ∧ c.val ≤ 'Z'.val
  · obtain ⟨hrange, hlower⟩ := toNat_toLower hcapital
    have hmarks : ∀ d ∈ valueMarks, ¬ (97 ≤ d.toNat ∧ d.toNat ≤ 122) := by decide
    exact absurd (by omega) (hmarks c.toLower h)
  · exact dif_neg hcapital

theorem unmarked_asciiLower {text : String} (h : Unmarked text.toList) : Unmarked (asciiLower text).toList := by
  rw [asciiLower, String.toList_ofList]
  intro c hc hmem
  obtain ⟨d, hd, rfl⟩ := List.mem_map.mp hc
  exact h d hd (eq_of_toLower_mem hmem ▸ hmem)

/-! ## Clauses -/

/-- What stands around a text in its clause. -/
structure ClauseFrame where
  before : String
  after : String

namespace ClauseFrame

/-- A text in its clause. -/
def around (frame : ClauseFrame) (text : String) : String :=
  frame.before ++ text ++ frame.after

/-- The frame has no marks of its own, and what stands behind the text keeps escapes out. -/
def Tight (frame : ClauseFrame) : Prop :=
  Unmarked frame.before.toList ∧ Unmarked frame.after.toList ∧ ∀ c ∈ frame.after.toList.take 1, c ∈ barriers

instance (frame : ClauseFrame) : Decidable frame.Tight :=
  inferInstanceAs (Decidable (_ ∧ _ ∧ _))

theorem fitsTag_around_iff {frame : ClauseFrame} (h : frame.Tight) (text : String) :
    FitsTag (frame.around text).toList ↔ FitsTag text.toList := by
  obtain ⟨hbefore, hafter, hbarrier⟩ := h
  rw [around, String.toList_append, String.toList_append, List.append_assoc, fitsTag_append_iff hbefore]
  cases hcs : frame.after.toList with
  | nil => rw [List.append_nil]
  | cons c rest =>
    rw [hcs] at hafter hbarrier
    have hrest : Unmarked rest := (List.forall_mem_cons.mp hafter).2
    rw [fitsTag_append_cons_iff (hbarrier c (List.mem_singleton_self c))]
    exact and_iff_left hrest.fitsTag

end ClauseFrame

namespace TagDialect

/-- The mark between clauses. -/
def separator : TagDialect → Char
  | xorm => ' '
  | _ => ';'

/-- The clauses of a column. -/
def clauses (column : Column) : TagDialect → List String
  | json | xml | gorose => [column.name]
  | gorm => (gormClauses .one column).map (GormClause.toText .one)
  | gormV2 => (gormClauses .two column).map (GormClause.toText .two)
  | xorm => xormClauses column
  | beego => beegoClauses column

theorem value_eq (column : Column) (dialect : TagDialect) :
    dialect.value column = dialect.separator.toString.intercalate (dialect.clauses column) := by
  cases dialect <;> simp [value, clauses] <;> rfl

/-- The clause of the default. -/
def defaultFrame : TagDialect → ClauseFrame
  | gorm => ⟨"default:'", "'"⟩
  | xorm => ⟨"default('", "')"⟩
  | beego => ⟨"default(", ")"⟩
  | _ => ⟨"default:", ""⟩

/-- The clause of the comment. -/
def commentFrame : TagDialect → ClauseFrame
  | gorm => ⟨"comment:'", "'"⟩
  | xorm => ⟨"comment('", "')"⟩
  | beego => ⟨"description(", ")"⟩
  | _ => ⟨"comment:", ""⟩

end TagDialect

/-! ## Clauses of columns -/

theorem forall_mem_clauseIf_iff {α : Type} {P : α → Prop} {condition : Bool} {clause : α} :
    (∀ a ∈ clauseIf condition clause, P a) ↔ (condition = true → P clause) := by
  cases condition <;> simp [clauseIf]

theorem unmarked_beegoTypeClauses {column : Column} (h : column.PlainNames) :
    ∀ clause ∈ beegoTypeClauses column, Unmarked clause.toList := by
  have htype := unmarked_asciiLower h.dataType
  have hunsigned : Unmarked (if column.unsigned then " unsigned" else "").toList := by
    split <;> decide
  have hclause {text : String} (htext : Unmarked text.toList) : Unmarked ("type(" ++ text ++ ")").toList :=
    unmarked_append (unmarked_append (by decide) htext) (by decide)
  have hnumber (n : Int64) {name : String} (hname : Unmarked name.toList) :
      Unmarked (name ++ toString n ++ ")").toList :=
    unmarked_append (unmarked_append hname (unmarked_toString n)) (by decide)
  simp only [beegoTypeClauses]
  generalize asciiLower column.dataType = dataType at htype ⊢
  generalize (if column.unsigned then " unsigned" else "") = unsigned at hunsigned ⊢
  have hnumeric : Unmarked ("type(" ++ dataType ++ unsigned ++ ")").toList :=
    unmarked_append (unmarked_append (unmarked_append (by decide) htype) hunsigned) (by decide)
  split_ifs <;> simp only [List.forall_mem_cons, List.not_mem_nil, false_imp_iff, implies_true, and_true]
  case pos => exact ⟨hnumeric, hnumber _ (by decide), hnumber _ (by decide)⟩
  case pos => exact ⟨hnumeric, hnumber _ (by decide)⟩
  case pos => decide
  case pos => exact ⟨hclause htype, hnumber _ (by decide)⟩
  case pos => decide
  case neg => exact hclause htype

section

variable {column : Column} {P : String → Prop}

/-- Clauses that end with those of two texts. -/
theorem forall_mem_append_clauseIf_iff {α : Type} {P : α → Prop} {front : List α} {showsDefault showsComment : Bool}
    {default comment : α} (hfront : ∀ clause ∈ front, P clause) :
    (∀ clause ∈ front ++ clauseIf showsDefault default ++ clauseIf showsComment comment, P clause) ↔
      (showsDefault = true → P default) ∧ (showsComment = true → P comment) := by
  rw [List.forall_mem_append, List.forall_mem_append, forall_mem_clauseIf_iff, forall_mem_clauseIf_iff, and_assoc]
  exact and_iff_right hfront

theorem forall_mem_gormConstraints_iff {version : GormVersion} (h : column.PlainNames)
    (hP : ∀ clause : String, Unmarked clause.toList → P clause) :
    (∀ clause ∈ gormConstraints column, P (clause.toText version)) ↔
      (!column.default.isEmpty → P (GormClause.toText version (.default column.default))) ∧
        (!column.comment.isEmpty → P (GormClause.toText version (.comment column.comment))) := by
  have hnames {indexes : List ColumnIndex} (hindexes : ∀ index ∈ indexes, Unmarked index.name.toList) :
      Unmarked (",".intercalate (indexes.map (·.name))).toList :=
    unmarked_intercalate (List.forall_mem_map.mpr hindexes)
  refine forall_mem_append_clauseIf_iff ?_
  rw [List.forall_mem_append, List.forall_mem_append]
  refine ⟨⟨forall_mem_clauseIf (hP _ ?notNull), forall_mem_clauseIf (hP _ ?indexes)⟩,
    forall_mem_clauseIf (hP _ ?uniqueIndexes)⟩
  case notNull => cases version <;> decide
  case indexes => cases version <;> exact unmarked_append (by decide) (hnames h.indexes)
  case uniqueIndexes => cases version <;> exact unmarked_append (by decide) (hnames h.uniqueIndexes)

theorem forall_mem_gormClauses_iff {version : GormVersion} (h : column.PlainNames)
    (hP : ∀ clause : String, Unmarked clause.toList → P clause) :
    (∀ clause ∈ gormClauses version column, P (clause.toText version)) ↔
      (!column.default.isEmpty → P (GormClause.toText version (.default column.default))) ∧
        (!column.comment.isEmpty → P (GormClause.toText version (.comment column.comment))) := by
  have hname : Unmarked ("column:" ++ column.name).toList := unmarked_append (by decide) h.name
  have htype : Unmarked ("type:" ++ column.columnType).toList := unmarked_append (by decide) h.columnType
  rw [← forall_mem_gormConstraints_iff h hP]
  cases version with
  | one =>
    rw [gormClauses, List.forall_mem_append, List.forall_mem_append, List.forall_mem_append,
      List.forall_mem_singleton, List.forall_mem_singleton]
    refine and_iff_right ⟨⟨forall_mem_clauseIf (hP _ (by decide)), hP _ hname⟩, hP _ ?_⟩
    split
    · exact unmarked_append htype (by decide)
    · exact htype
  | two =>
    rw [gormClauses, List.forall_mem_append, List.forall_mem_append, List.forall_mem_append, List.forall_mem_append,
      List.forall_mem_singleton]
    exact and_iff_right ⟨⟨⟨forall_mem_clauseIf (hP _ (by decide)), forall_mem_clauseIf (hP _ (by decide))⟩,
      hP _ hname⟩, forall_mem_clauseIf (hP _ htype)⟩

namespace TagDialect

/-- All clauses but those of the default and of the comment stand for themselves. -/
theorem forall_mem_clauses_iff {dialect : TagDialect} (hshows : dialect.showsTexts = true) (h : column.PlainNames)
    (hP : ∀ clause : String, Unmarked clause.toList → P clause) :
    (∀ clause ∈ dialect.clauses column, P clause) ↔
      (!column.default.isEmpty → P (dialect.defaultFrame.around column.default)) ∧
        (!column.comment.isEmpty → P (dialect.commentFrame.around column.comment)) := by
  have hindex {name : String} (index : ColumnIndex) (hname : Unmarked name.toList)
      (hindex : Unmarked index.name.toList) : P (name ++ index.name ++ ")") :=
    hP _ (unmarked_append (unmarked_append hname hindex) (by decide))
  cases dialect with
  | json | xml | gorose => cases hshows
  | gorm => exact List.forall_mem_map.trans (forall_mem_gormClauses_iff h hP)
  | gormV2 =>
    simp only [ClauseFrame.around, defaultFrame, commentFrame, String.append_empty]
    exact List.forall_mem_map.trans (forall_mem_gormClauses_iff h hP)
  | xorm =>
    refine forall_mem_append_clauseIf_iff ?_
    simp only [List.forall_mem_append, List.forall_mem_singleton, List.forall_mem_map]
    refine ⟨⟨⟨⟨⟨?key, ?counting⟩, ?column⟩, ?notNull⟩, ?indexes⟩, ?uniqueIndexes⟩
    case key | counting | notNull => exact forall_mem_clauseIf (hP _ (by decide))
    case column =>
      exact hP _ (unmarked_append (unmarked_append (unmarked_append h.columnType (by decide)) h.name) (by decide))
    case indexes => exact fun index hmem => hindex index (by decide) (h.indexes index hmem)
    case uniqueIndexes => exact fun index hmem => hindex index (by decide) (h.uniqueIndexes index hmem)
  | beego =>
    refine forall_mem_append_clauseIf_iff ?_
    simp only [List.forall_mem_append, List.forall_mem_singleton]
    refine ⟨⟨⟨⟨?key, ?counting⟩, ?column⟩, ?type⟩, ?nullable⟩
    case key | counting | nullable => exact forall_mem_clauseIf (hP _ (by decide))
    case column => exact hP _ (unmarked_append (unmarked_append (by decide) h.name) (by decide))
    case type => exact fun clause hmem => hP _ (unmarked_beegoTypeClauses h clause hmem)

/-! ## Values -/

theorem getLast?_intercalate {c d : Char} (hc : c ≠ d) {texts : List (List Char)}
    (h : ∀ text ∈ texts, text.getLast? ≠ some d) : ([c].intercalate texts).getLast? ≠ some d := by
  induction texts with
  | nil => simp
  | cons text rest ih =>
    obtain ⟨htext, hrest⟩ := List.forall_mem_cons.mp h
    cases rest with
    | nil => simpa using htext
    | cons next rest =>
      rw [List.intercalate_cons_cons, List.append_assoc, List.singleton_append,
        List.getLast?_append_of_ne_nil _ (List.cons_ne_nil _ _)]
      cases hjoined : [c].intercalate (next :: rest) with
      | nil => simpa using hc
      | cons _ _ =>
        rw [List.getLast?_cons_cons, ← hjoined]
        exact ih hrest

theorem tight_defaultFrame (dialect : TagDialect) : dialect.defaultFrame.Tight := by
  cases dialect <;> decide

theorem tight_commentFrame (dialect : TagDialect) : dialect.commentFrame.Tight := by
  cases dialect <;> decide

theorem fitsTag_value_iff_clauses (column : Column) (dialect : TagDialect) :
    FitsTag (dialect.value column).toList ↔ ∀ clause ∈ dialect.clauses column, FitsTag clause.toList := by
  have hseparator : dialect.separator ∈ barriers := by
    cases dialect <;> decide
  rw [value_eq, String.toList_intercalate, Char.toString, String.toList_singleton,
    intercalate_iff fitsTag_nil fun _ _ => fitsTag_append_cons_iff hseparator, List.forall_mem_map]

/-- A value with names only fits the tag. -/
theorem fitsTag_value_of_names {dialect : TagDialect} (hshows : dialect.showsTexts = false) (h : column.PlainNames) :
    FitsTag (dialect.value column).toList := by
  cases dialect with
  | json | xml | gorose => exact h.name.fitsTag
  | gorm | xorm | beego | gormV2 => cases hshows

/-- A value with texts fits the tag when these do. -/
theorem fitsTag_value_iff {dialect : TagDialect} (hshows : dialect.showsTexts = true) (h : column.PlainNames) :
    FitsTag (dialect.value column).toList ↔
      FitsTag column.default.toList ∧ FitsTag column.comment.toList := by
  have hshown (text : String) : (!text.isEmpty → FitsTag text.toList) ↔ FitsTag text.toList := by
    refine ⟨fun hfits => ?_, fun hfits _ => hfits⟩
    by_cases hempty : text = ""
    · rw [hempty]
      exact fitsTag_nil
    · exact hfits (by simpa using hempty)
  rw [fitsTag_value_iff_clauses, forall_mem_clauses_iff hshows h fun _ hclause => hclause.fitsTag,
    ClauseFrame.fitsTag_around_iff dialect.tight_defaultFrame, ClauseFrame.fitsTag_around_iff dialect.tight_commentFrame,
    hshown, hshown]

/-- No value but that of the last dialect can end with a backslash: its texts stand before marks. -/
theorem getLast?_value {dialect : TagDialect} (hlast : dialect ≠ .gormV2) (h : column.PlainNames) :
    (dialect.value column).toList.getLast? ≠ some '\\' := by
  have hunmarked {cs : List Char} (hcs : Unmarked cs) : cs.getLast? ≠ some '\\' :=
    fun hmem => hcs _ (List.mem_of_getLast? hmem) (by decide)
  have haround {frame : ClauseFrame} (text : String) (hne : frame.after.toList ≠ []) (hframe : frame.Tight) :
      (frame.around text).toList.getLast? ≠ some '\\' := by
    rw [ClauseFrame.around, String.toList_append, List.getLast?_append_of_ne_nil _ hne]
    exact hunmarked hframe.2.1
  cases hshows : dialect.showsTexts with
  | false =>
    cases dialect with
    | json | xml | gorose => exact hunmarked h.name
    | gorm | xorm | beego | gormV2 => cases hshows
  | true =>
    have hframes : dialect.defaultFrame.after.toList ≠ [] ∧ dialect.commentFrame.after.toList ≠ [] := by
      revert hshows hlast
      cases dialect <;> decide
    have hclauses := (forall_mem_clauses_iff (P := fun clause => clause.toList.getLast? ≠ some '\\') hshows h
      fun _ => hunmarked).mpr
      ⟨fun _ => haround _ hframes.1 dialect.tight_defaultFrame,
        fun _ => haround _ hframes.2 dialect.tight_commentFrame⟩
    have hseparator : dialect.separator ≠ '\\' := by
      cases dialect <;> decide
    rw [value_eq, String.toList_intercalate, Char.toString, String.toList_singleton]
    exact getLast?_intercalate hseparator (List.forall_mem_map.mpr hclauses)

end TagDialect

end

/-! ## Combined tags -/

variable {config : GenerationConfig} {column : Column}

theorem textsFit_iff (h : column.PlainNames) :
    column.TextsFit config ↔ ∀ dialect ∈ enabledDialects config, FitsTag (dialect.value column).toList := by
  constructor
  · intro hfit dialect hmem
    cases hshows : dialect.showsTexts with
    | false => exact TagDialect.fitsTag_value_of_names hshows h
    | true => exact (TagDialect.fitsTag_value_iff hshows h).mpr (hfit ⟨dialect, hmem, hshows⟩)
  · rintro hall ⟨dialect, hmem, hshows⟩
    exact (TagDialect.fitsTag_value_iff hshows h).mp (hall dialect hmem)

/-- Only the two `gorm` dialects share a key, and they are never both enabled. -/
theorem nodup_keys (config : GenerationConfig) : ((enabledDialects config).map TagDialect.key).Nodup := by
  refine List.Nodup.map_on (fun d hd e he hkey => ?_) (List.Nodup.filter _ (by decide))
  have hd := (List.mem_filter.mp hd).2
  have he := (List.mem_filter.mp he).2
  cases d <;> cases e <;> first | rfl | exact absurd hkey (by decide) | simp_all [TagDialect.isEnabled]

theorem ne_gormV2_of_mem_dropLast {dialect : TagDialect} (h : dialect ∈ (enabledDialects config).dropLast) :
    dialect ≠ .gormV2 := by
  have hall : TagDialect.all = TagDialect.all.dropLast ++ [.gormV2] := by decide
  have hfirst : dialect ∈ TagDialect.all.dropLast.filter (·.isEnabled config) := by
    rw [enabledDialects, hall, List.filter_append] at h
    cases hlast : TagDialect.gormV2.isEnabled config with
    | false =>
      rw [List.filter_singleton, hlast, cond_false, List.append_nil] at h
      exact List.mem_of_mem_dropLast h
    | true =>
      rw [List.filter_singleton, hlast, cond_true, List.dropLast_concat] at h
      exact h
  rintro rfl
  exact absurd (List.mem_filter.mp hfirst).1 (by decide)

theorem combinedTag_eq (column : Column) (hne : enabledDialects config ≠ []) :
    combinedTag config column = backtick.toString ++
      String.ofList (tagTexts ((enabledDialects config).map (tagOf · column))) ++ backtick.toString := by
  have hbody : String.ofList (tagTexts ((enabledDialects config).map (tagOf · column))) =
      " ".intercalate ((enabledDialects config).map fun dialect => (tagOf dialect column).toText) := by
    refine String.toList_injective ?_
    rw [String.toList_ofList, String.toList_intercalate, tagTexts, List.map_map, List.map_map]
    rfl
  obtain ⟨dialect, rest, hcons⟩ := List.exists_cons_of_ne_nil hne
  rw [hbody, combinedTag, hcons, List.map_cons]

/-- What the combined tag of a column is read as. The keys of the enabled dialects differ. When there are any,
    the tag is a text between backticks; it is a tag with one pair for each of them exactly when the texts that
    they show fit, and then the pairs are the tags of the dialects. -/
theorem combinedTag_reads (config : GenerationConfig) (column : Column) (h : column.PlainNames) :
    ((enabledDialects config).map TagDialect.key).Nodup ∧
    (enabledDialects config = [] → combinedTag config column = "") ∧
    (enabledDialects config ≠ [] → ∃ body : String,
      combinedTag config column = backtick.toString ++ body ++ backtick.toString ∧
      ((TagText body.toList ∧ ∃ tags, readTag body.toList = some tags ∧
          tags.map Tag.key = (enabledDialects config).map TagDialect.key) ↔ column.TextsFit config) ∧
      (column.TextsFit config →
        readTag body.toList = some ((enabledDialects config).map (tagOf · column)))) := by
  refine ⟨nodup_keys config, fun hempty => by simp [combinedTag, hempty], fun hne =>
    ⟨_, combinedTag_eq column hne, ?_⟩⟩
  have hkeys : ∀ tag ∈ (enabledDialects config).map (tagOf · column),
      IsKey tag.key.toList ∧ TagText tag.key.toList := by
    rw [List.forall_mem_map]
    intro dialect _
    change IsKey dialect.key.toList ∧ TagText dialect.key.toList
    cases dialect <;> decide
  have hends : ∀ tag ∈ ((enabledDialects config).map (tagOf · column)).dropLast,
      tag.value.toList.getLast? ≠ some '\\' := by
    rw [← List.map_dropLast, List.forall_mem_map]
    exact fun dialect hmem => TagDialect.getLast?_value (ne_gormV2_of_mem_dropLast hmem) h
  have hreads := reads_iff hkeys hends
  rw [List.map_map, List.forall_mem_map] at hreads
  rw [String.toList_ofList, textsFit_iff h]
  refine ⟨hreads, fun hfits => ?_⟩
  exact readTag_of_isLiteral (fun tag htag => (hkeys tag htag).1)
    (List.forall_mem_map.mpr fun dialect hmem => (hfits dialect hmem).2)

/-- A column with a comment. -/
def Column.commented (comment : String) : Column :=
  { name := "n", ordinal := 1, dataType := "bigint", columnType := "bigint", nullable := false, default := ""
    length := 0, precision := 0, scale := 0, primaryKey := false, autoIncrement := false, unsigned := false
    comment := comment, indexes := [], uniqueIndexes := [] }

/-- A single quote in a comment is read as it stands, and a double quote ends the value. -/
theorem double_quote_ends_value :
    (Column.commented "a'b").PlainNames ∧ (Column.commented "a\"b").PlainNames ∧
    (∃ body,
      combinedTag { enableGormTag := true } (.commented "a'b") = backtick.toString ++ body ++ backtick.toString ∧
      readTag body.toList = some [tagOf .gorm (.commented "a'b")]) ∧
    (∃ body,
      combinedTag { enableGormTag := true } (.commented "a\"b") = backtick.toString ++ body ++ backtick.toString ∧
      ¬ (TagText body.toList ∧ ∃ tags, readTag body.toList = some tags ∧ tags.map Tag.key = ["gorm"])) := by
  have hplain (comment : String) : (Column.commented comment).PlainNames :=
    ⟨show Unmarked "n".toList by decide, show Unmarked "bigint".toList by decide,
      show Unmarked "bigint".toList by decide, List.forall_mem_nil _, List.forall_mem_nil _⟩
  refine ⟨hplain _, hplain _, ?_, ?_⟩
  · obtain ⟨body, hbody, -, hreads⟩ :=
      (combinedTag_reads { enableGormTag := true } (.commented "a'b") (hplain _)).2.2 (by decide)
    exact ⟨body, hbody, hreads fun _ => ⟨by decide, by decide⟩⟩
  · obtain ⟨body, hbody, hiff, -⟩ :=
      (combinedTag_reads { enableGormTag := true } (.commented "a\"b") (hplain _)).2.2 (by decide)
    refine ⟨body, hbody, fun hreads => ?_⟩
    have hcomment := (hiff.mp hreads ⟨.gorm, by decide, rfl⟩).2
    exact absurd hcomment (by decide)

end TableCodegen
