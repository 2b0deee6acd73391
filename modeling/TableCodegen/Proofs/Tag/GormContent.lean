import Mathlib.Data.List.Infix
import TableCodegen.Proofs.Tag.Dialect
import TableCodegen.Proofs.Text.Search

/-!
# Contents of `gorm` tags

The value of a `gorm` tag is a list of clauses with semicolons between them. Every clause but the name of the
column may be missing, but all have a fixed place among the others, and each starts with a word of its own. So
a tag is read by cutting its value at the semicolons, and what the column says comes back.

Results:

* `ClauseFrame.inside?_eq_some_iff`: the text in a clause.
* `GormClause.ofText?_toText`: a written clause is read back.
* `gormClauses_inOrder`: the clauses of a column stand in their fixed order.
* `GormContent.ofClauses?_gormClauses`: the clauses of a column say what the column says.
* `gorm_tags_decoded`: the tags of a column in both versions.
-/

namespace TableCodegen

open TableCodegen.Text

/-! ## Specification -/

/-- The dialect of a version. -/
def GormVersion.dialect : GormVersion → TagDialect
  | one => .gorm
  | two => .gormV2

/-- What a `gorm` tag says. -/
structure GormContent where
  primaryKey : Bool
  autoIncrement : Bool
  name : String
  columnType : Option String
  notNull : Bool
  indexes : List String
  uniqueIndexes : List String
  default : Option String
  comment : Option String
  deriving Repr, DecidableEq

/-- What the tag of a column has to say: version two gives no type to a key, and empty texts are missing. -/
def Column.gormContent (version : GormVersion) (column : Column) : GormContent where
  primaryKey := column.primaryKey
  autoIncrement := column.autoIncrement
  name := column.name
  columnType := if version = .two ∧ column.primaryKey = true then none else some column.columnType
  notNull := !column.nullable && !column.primaryKey
  indexes := column.indexes.map (·.name)
  uniqueIndexes := column.uniqueIndexes.map (·.name)
  default := if column.default = "" then none else some column.default
  comment := if column.comment = "" then none else some column.comment

/-- The end of the type of a column that counts by itself. -/
def countingEnd : String := " auto_increment"

/-- The texts of a column can be told apart in a tag. -/
structure Column.Separable (column : Column) : Prop where
  name : ';' ∉ column.name.toList
  columnType : ';' ∉ column.columnType.toList
  notCounting : ¬ countingEnd.toList <:+ column.columnType.toList
  indexes : ∀ index ∈ column.indexes, ';' ∉ index.name.toList ∧ ',' ∉ index.name.toList
  uniqueIndexes : ∀ index ∈ column.uniqueIndexes, ';' ∉ index.name.toList ∧ ',' ∉ index.name.toList
  default : ';' ∉ column.default.toList
  comment : ';' ∉ column.comment.toList

/-! ## Reading -/

/-- The text in a clause of the frame. -/
def ClauseFrame.inside? (frame : ClauseFrame) (clause : String) : Option String := do
  let rest ← dropHead? frame.before.toList clause.toList
  let text ← dropHead? frame.after.toList.reverse rest.reverse
  return String.ofList text.reverse

/-- The pieces of a text between separators. -/
def piecesOf (separator : Char) (text : String) : List String :=
  (text.toList.splitOn separator).map String.ofList

namespace GormClause

/-- A clause with a text behind its word and before its end. -/
def readFramed? (word ending : String) (clause : String → GormClause) (text : String) : Option GormClause :=
  ((⟨word, ending⟩ : ClauseFrame).inside? text).map clause

/-- A clause that is a word alone. -/
def readWord? (version : GormVersion) (clause : GormClause) (text : String) : Option GormClause :=
  if (clause.toText version).toList = text.toList then some clause else none

/-- The clauses of both versions, by their words. -/
def readShared? (version : GormVersion) (text : String) : Option GormClause :=
  readWord? version primaryKey text <|> readWord? version notNull text <|> readFramed? "column:" "" column text <|>
    readFramed? "type:" "" type text <|> readFramed? "index:" "" (fun names => index (piecesOf ',' names)) text

/-- Reads a clause. Version one has a type that counts, and quotes the texts of the database. -/
def ofText? : GormVersion → String → Option GormClause
  | .one, text =>
    readFramed? "type:" countingEnd countingType text <|> readShared? .one text <|>
      readFramed? "unique_index:" "" (fun names => uniqueIndex (piecesOf ',' names)) text <|>
      readFramed? "default:'" "'" default text <|> readFramed? "comment:'" "'" comment text
  | .two, text =>
    readWord? .two autoIncrement text <|> readShared? .two text <|>
      readFramed? "uniqueIndex:" "" (fun names => uniqueIndex (piecesOf ',' names)) text <|>
      readFramed? "default:" "" default text <|> readFramed? "comment:" "" comment text

/-- The place of a clause among the others. -/
def rank : GormClause → Nat
  | primaryKey => 0
  | autoIncrement => 1
  | column _ => 2
  | type _ | countingType _ => 3
  | notNull => 4
  | index _ => 5
  | uniqueIndex _ => 6
  | default _ => 7
  | comment _ => 8

/-- The clauses stand in the fixed order, each at most once. -/
def InOrder (clauses : List GormClause) : Prop :=
  (clauses.map rank).Pairwise (· < ·)

instance (clauses : List GormClause) : Decidable (InOrder clauses) :=
  inferInstanceAs (Decidable (List.Pairwise _ _))

end GormClause

/-- What clauses say, if they stand in order and one of them names the column. -/
def GormContent.ofClauses? (clauses : List GormClause) : Option GormContent := do
  guard (GormClause.InOrder clauses)
  let name ← clauses.findSome? fun
    | .column name => some name
    | _ => none
  return {
    primaryKey := clauses.contains .primaryKey
    autoIncrement := clauses.any fun
      | .autoIncrement | .countingType _ => true
      | _ => false
    name := name
    columnType := clauses.findSome? fun
      | .type text | .countingType text => some text
      | _ => none
    notNull := clauses.contains .notNull
    indexes := (clauses.findSome? fun
      | .index names => some names
      | _ => none).getD []
    uniqueIndexes := (clauses.findSome? fun
      | .uniqueIndex names => some names
      | _ => none).getD []
    default := clauses.findSome? fun
      | .default text => some text
      | _ => none
    comment := clauses.findSome? fun
      | .comment text => some text
      | _ => none }

/-- Reads a `gorm` tag. -/
def readGormTag (version : GormVersion) (tag : String) : Option GormContent := do
  let value ← (⟨"gorm:\"", "\""⟩ : ClauseFrame).inside? tag
  let clauses ← (piecesOf ';' value).mapM (GormClause.ofText? version)
  GormContent.ofClauses? clauses

/-! ## Texts in their frames -/

namespace ClauseFrame

variable {frame : ClauseFrame} {clause text : String}

theorem toList_around (frame : ClauseFrame) (text : String) :
    (frame.around text).toList = frame.before.toList ++ text.toList ++ frame.after.toList := by
  rw [around, String.toList_append, String.toList_append]

theorem inside?_eq_some_iff : frame.inside? clause = some text ↔ clause = frame.around text := by
  rw [← String.toList_inj, toList_around]
  simp only [inside?, Option.bind_eq_bind, Option.bind_eq_some_iff, dropHead?_eq_some_iff, pure, Option.some.injEq]
  constructor
  · rintro ⟨rest, hrest, back, hback, rfl⟩
    have hrest' : rest = back.reverse ++ frame.after.toList := by
      rw [← List.reverse_reverse rest, hback, List.reverse_append, List.reverse_reverse]
    rw [hrest, hrest', String.toList_ofList, List.append_assoc]
  · intro h
    refine ⟨text.toList ++ frame.after.toList, by rw [h, List.append_assoc], text.toList.reverse, ?_, ?_⟩
    · rw [List.reverse_append]
    · rw [List.reverse_reverse, String.ofList_toList]

@[simp] theorem inside?_around : frame.inside? (frame.around text) = some text :=
  inside?_eq_some_iff.mpr rfl

/-- A clause with another start has no text for the frame. -/
theorem inside?_eq_none (h : ¬ frame.before.toList <+: clause.toList) : frame.inside? clause = none := by
  rw [Option.eq_none_iff_forall_ne_some]
  intro text htext
  rw [inside?_eq_some_iff.mp htext, toList_around, List.append_assoc] at h
  exact h (List.prefix_append _ _)

end ClauseFrame

theorem piecesOf_intercalate {separator : Char} {texts : List String}
    (h : ∀ text ∈ texts, separator ∉ text.toList) (hne : texts ≠ []) :
    piecesOf separator (separator.toString.intercalate texts) = texts := by
  have hlist : ∀ text ∈ texts.map String.toList, separator ∉ text := List.forall_mem_map.mpr h
  rw [piecesOf, String.toList_intercalate, Char.toString, String.toList_singleton,
    List.splitOn_intercalate separator hlist (by simpa using hne), List.map_map]
  exact List.map_id'' (fun text => String.ofList_toList) texts

/-! ## Clauses -/

namespace GormClause

/-- The version writes the clause so that it can be read back. -/
def Readable : GormVersion → GormClause → Prop
  | .one, autoIncrement | .two, countingType _ => False
  | .one, type text => ¬ countingEnd.toList <:+ text.toList
  | _, index names | _, uniqueIndex names => names ≠ [] ∧ ∀ name ∈ names, ',' ∉ name.toList
  | _, _ => True

section Reading

variable {word ending text : String} {read : String → GormClause}

theorem readFramed?_around (word ending text : String) (read : String → GormClause) :
    readFramed? word ending read (word ++ text ++ ending) = some (read text) := by
  have hinside : (⟨word, ending⟩ : ClauseFrame).inside? (word ++ text ++ ending) = some text :=
    ClauseFrame.inside?_around
  rw [readFramed?, hinside, Option.map_some]

theorem readFramed?_behind (word text : String) (read : String → GormClause) :
    readFramed? word "" read (word ++ text) = some (read text) := by
  have hread := readFramed?_around word "" text read
  rwa [String.append_empty] at hread

/-- A clause with another word is left to the other readers. -/
theorem readFramed?_eq_none (h : ¬ word.toList <+: text.toList) : readFramed? word ending read text = none := by
  rw [readFramed?, ClauseFrame.inside?_eq_none h, Option.map_none]

/-- So is a clause with the same word and another end. -/
theorem readFramed?_eq_none_of_ending (h : ¬ ending.toList <:+ text.toList) :
    readFramed? word ending read (word ++ text) = none := by
  rw [readFramed?, Option.map_eq_none_iff, Option.eq_none_iff_forall_ne_some]
  intro inner hinner
  have hclause := congrArg String.toList (ClauseFrame.inside?_eq_some_iff.mp hinner)
  rw [ClauseFrame.toList_around, String.toList_append, List.append_assoc, List.append_cancel_left_eq] at hclause
  exact h ⟨inner.toList, hclause.symm⟩

theorem piecesOf_names {names : List String} (h : names ≠ [] ∧ ∀ name ∈ names, ',' ∉ name.toList) :
    piecesOf ',' (",".intercalate names) = names :=
  piecesOf_intercalate h.2 h.1

end Reading

variable {version : GormVersion} {clause : GormClause}

/-- Each reader takes the clauses with its word. -/
theorem ofText?_toText (h : clause.Readable version) : ofText? version (clause.toText version) = some clause := by
  cases version with
  | one =>
    cases clause with
    | primaryKey | notNull => decide
    | autoIncrement => cases h
    | column name => simp [ofText?, readShared?, toText, readWord?, readFramed?_eq_none, readFramed?_behind]
    | type text =>
      simp [ofText?, readShared?, toText, readWord?, readFramed?_eq_none, readFramed?_behind,
        readFramed?_eq_none_of_ending h]
    | countingType text => simp [ofText?, toText, readFramed?_around, countingEnd]
    | index names | uniqueIndex names =>
      simp [ofText?, readShared?, toText, readWord?, readFramed?_eq_none, readFramed?_behind, piecesOf_names h]
    | default text | comment text =>
      simp [ofText?, readShared?, toText, readWord?, readFramed?_eq_none, readFramed?_around]
  | two =>
    cases clause with
    | primaryKey | autoIncrement | notNull => decide
    | countingType text => cases h
    | index names | uniqueIndex names =>
      simp [ofText?, readShared?, toText, readWord?, readFramed?_eq_none, readFramed?_behind, piecesOf_names h]
    | column text | type text | default text | comment text =>
      simp [ofText?, readShared?, toText, readWord?, readFramed?_eq_none, readFramed?_behind]

end GormClause

/-! ## Clauses of columns -/

section Columns

variable {column : Column}

theorem not_mem_intercalate {texts : List String} (h : ∀ text ∈ texts, ';' ∉ text.toList) :
    ';' ∉ (",".intercalate texts).toList := by
  rw [String.toList_intercalate]
  intro hmem
  obtain hcomma | ⟨piece, hpiece, hmem⟩ := mem_intercalate hmem
  · exact absurd hcomma (by decide)
  · obtain ⟨text, htext, rfl⟩ := List.mem_map.mp hpiece
    exact h text htext hmem

/-- A clause that can be read back, also among others. -/
def GormClause.Separate (version : GormVersion) (clause : GormClause) : Prop :=
  clause.Readable version ∧ ';' ∉ (clause.toText version).toList

/-- The names of the indexes of a column, in either clause. -/
theorem separate_names {indexes : List ColumnIndex} (hne : indexes ≠ [])
    (h : ∀ index ∈ indexes, ';' ∉ index.name.toList ∧ ',' ∉ index.name.toList) (version : GormVersion) :
    (GormClause.index (indexes.map (·.name))).Separate version ∧
      (GormClause.uniqueIndex (indexes.map (·.name))).Separate version := by
  have hreadable : indexes.map (·.name) ≠ [] ∧ ∀ name ∈ indexes.map (·.name), ',' ∉ name.toList :=
    ⟨by simpa using hne, List.forall_mem_map.mpr fun index hindex => (h index hindex).2⟩
  have hjoined : ';' ∉ (",".intercalate (indexes.map (·.name))).toList :=
    not_mem_intercalate (List.forall_mem_map.mpr fun index hindex => (h index hindex).1)
  have hbehind {word : String} (hword : ';' ∉ word.toList) :
      ';' ∉ (word ++ ",".intercalate (indexes.map (·.name))).toList := by
    rw [String.toList_append, List.mem_append, not_or]
    exact ⟨hword, hjoined⟩
  cases version with
  | one => exact ⟨⟨hreadable, hbehind (by decide)⟩, hreadable, hbehind (by decide)⟩
  | two => exact ⟨⟨hreadable, hbehind (by decide)⟩, hreadable, hbehind (by decide)⟩

theorem forall_mem_gormConstraints_separate (h : column.Separable) (version : GormVersion) :
    ∀ clause ∈ gormConstraints column, clause.Separate version := by
  simp only [gormConstraints, List.forall_mem_append, forall_mem_clauseIf_iff]
  refine ⟨⟨⟨⟨fun _ => ?notNull, fun hne => ?indexes⟩, fun hne => ?uniqueIndexes⟩, fun _ => ?default⟩, fun _ => ?comment⟩
  case notNull => cases version <;> exact ⟨trivial, by decide⟩
  case indexes => exact (separate_names (by simpa using hne) h.indexes version).1
  case uniqueIndexes => exact (separate_names (by simpa using hne) h.uniqueIndexes version).2
  case default => cases version <;> exact ⟨trivial, by simpa [GormClause.toText] using h.default⟩
  case comment => cases version <;> exact ⟨trivial, by simpa [GormClause.toText] using h.comment⟩

theorem forall_mem_gormClauses_separate (h : column.Separable) (version : GormVersion) :
    ∀ clause ∈ gormClauses version column, clause.Separate version := by
  have hname : ';' ∉ ("column:" ++ column.name).toList := by simpa using h.name
  have htype : ';' ∉ ("type:" ++ column.columnType).toList := by simpa using h.columnType
  have hconstraints := forall_mem_gormConstraints_separate h version
  cases version with
  | one =>
    simp only [gormClauses, List.forall_mem_append, List.forall_mem_singleton, forall_mem_clauseIf_iff]
    refine ⟨⟨⟨fun _ => ⟨trivial, by decide⟩, trivial, hname⟩, ?_⟩, hconstraints⟩
    split
    · refine ⟨trivial, ?_⟩
      simpa [GormClause.toText] using h.columnType
    · exact ⟨h.notCounting, htype⟩
  | two =>
    simp only [gormClauses, List.forall_mem_append, List.forall_mem_singleton, forall_mem_clauseIf_iff]
    exact ⟨⟨⟨⟨fun _ => ⟨trivial, by decide⟩, fun _ => ⟨trivial, by decide⟩⟩, trivial, hname⟩,
      fun _ => ⟨trivial, htype⟩⟩, hconstraints⟩

/-! ## Order -/

theorem clauseIf_sublist {α : Type} (condition : Bool) (clause : α) :
    (clauseIf condition clause).Sublist [clause] := by
  cases condition
  · exact List.nil_sublist _
  · exact List.Sublist.refl _

theorem map_rank_gormConstraints : ((gormConstraints column).map GormClause.rank).Sublist [4, 5, 6, 7, 8] :=
  ((((clauseIf_sublist _ _).append (clauseIf_sublist _ _)).append (clauseIf_sublist _ _)).append
    (clauseIf_sublist _ _)).append (clauseIf_sublist _ _) |>.map GormClause.rank

/-- A clause that is missing leaves the places of the others. -/
theorem gormClauses_inOrder (version : GormVersion) (column : Column) :
    GormClause.InOrder (gormClauses version column) := by
  have hplaces : ((gormClauses version column).map GormClause.rank).Sublist [0, 1, 2, 3, 4, 5, 6, 7, 8] := by
    cases version with
    | one =>
      have hcounting : (if column.autoIncrement then GormClause.countingType column.columnType
          else .type column.columnType).rank = 3 := by
        split <;> rfl
      have hfront : ((clauseIf column.primaryKey GormClause.primaryKey).map GormClause.rank ++ [2] ++ [3]).Sublist
          [0, 1, 2, 3] :=
        ((((clauseIf_sublist _ _).map GormClause.rank).append_right [2]).append_right [3]).trans (by decide)
      rw [gormClauses, List.map_append, List.map_append, List.map_append, List.map_singleton, List.map_singleton,
        hcounting]
      exact hfront.append map_rank_gormConstraints
    | two =>
      have hfront := ((((clauseIf_sublist column.primaryKey GormClause.primaryKey).append
        (clauseIf_sublist column.autoIncrement .autoIncrement)).append_right [.column column.name]).append
        (clauseIf_sublist (!column.primaryKey) (.type column.columnType))).map GormClause.rank
      rw [gormClauses, List.map_append]
      exact hfront.append map_rank_gormConstraints
  have hascending : [0, 1, 2, 3, 4, 5, 6, 7, 8].Pairwise (· < ·) := by decide
  exact hascending.sublist hplaces

/-! ## Contents -/

section

variable {α β : Type} {condition : Bool} {clause : α}

@[simp] theorem findSome?_clauseIf {f : α → Option β} :
    (clauseIf condition clause).findSome? f = if condition then f clause else none := by
  cases condition <;> simp [clauseIf]

@[simp] theorem mem_clauseIf {a : α} : a ∈ clauseIf condition clause ↔ condition = true ∧ a = clause := by
  cases condition <;> simp [clauseIf]

@[simp] theorem any_clauseIf {p : α → Bool} : (clauseIf condition clause).any p = (condition && p clause) := by
  cases condition <;> simp [clauseIf]

end

theorem Column.isNotNull_eq (column : Column) : column.isNotNull = (!column.nullable && !column.primaryKey) :=
  Bool.not_or _ _

/-- No clause stands for no names. -/
theorem getD_names {indexes : List ColumnIndex} :
    (if indexes = [] then none else some (indexes.map (·.name))).getD [] = indexes.map (·.name) := by
  cases indexes <;> rfl

/-- Each question about a column is answered by the one clause that is there for it. -/
theorem GormContent.ofClauses?_gormClauses (version : GormVersion) (column : Column) :
    GormContent.ofClauses? (gormClauses version column) = some (column.gormContent version) := by
  have hguard : (guard (GormClause.InOrder (gormClauses version column)) : Option Unit) = some () := by
    rw [guard, if_pos (gormClauses_inOrder version column)]
    rfl
  rw [GormContent.ofClauses?, hguard, Option.bind_eq_bind, Option.bind_some]
  cases version with
  | one =>
    -- The clause of the type also says whether the column counts.
    cases hcounting : column.autoIncrement <;>
      simp [gormClauses, gormConstraints, List.findSome?_append, Column.gormContent, Column.isNotNull_eq, getD_names,
        hcounting]
  | two =>
    cases hkey : column.primaryKey <;>
      simp [gormClauses, gormConstraints, List.findSome?_append, Column.gormContent, Column.isNotNull_eq, getD_names,
        hkey]

end Columns

/-! ## Tags -/

variable {version : GormVersion} {column : Column}

theorem mapM_ofText? {clauses : List GormClause} (h : ∀ clause ∈ clauses, clause.Separate version) :
    (clauses.map (GormClause.toText version)).mapM (GormClause.ofText? version) = some clauses := by
  induction clauses with
  | nil => rfl
  | cons clause rest ih =>
    obtain ⟨hclause, hrest⟩ := List.forall_mem_cons.mp h
    rw [List.map_cons, List.mapM_cons, GormClause.ofText?_toText hclause.1, ih hrest]
    rfl

theorem gormClauses_ne_nil (version : GormVersion) (column : Column) : gormClauses version column ≠ [] := by
  cases version <;> simp [gormClauses]

theorem value_dialect (version : GormVersion) (column : Column) :
    version.dialect.value column =
      ";".intercalate ((gormClauses version column).map (GormClause.toText version)) := by
  cases version <;> rfl

theorem toText_tagOf_dialect (version : GormVersion) (column : Column) :
    (tagOf version.dialect column).toText =
      (⟨"gorm:\"", "\""⟩ : ClauseFrame).around (version.dialect.value column) := by
  have hkey : version.dialect.key ++ ":\"" = "gorm:\"" := by
    cases version <;> decide
  rw [Tag.toText, tagOf, ClauseFrame.around, hkey]

theorem readGormTag_toText (h : column.Separable) :
    readGormTag version (tagOf version.dialect column).toText = some (column.gormContent version) := by
  have hseparate := forall_mem_gormClauses_separate h version
  have hpieces : piecesOf ';' (version.dialect.value column) =
      (gormClauses version column).map (GormClause.toText version) := by
    rw [value_dialect]
    refine piecesOf_intercalate (List.forall_mem_map.mpr fun clause hclause => (hseparate clause hclause).2) ?_
    simpa using gormClauses_ne_nil version column
  rw [readGormTag, toText_tagOf_dialect, ClauseFrame.inside?_around, Option.bind_eq_bind, Option.bind_some, hpieces,
    mapM_ofText? hseparate]
  exact GormContent.ofClauses?_gormClauses version column

/-- The tag of a column in either version is read back as what the column says. So columns whose texts can be told
apart have different tags as soon as the tags have different things to say. -/
theorem gorm_tags_decoded (version : GormVersion) (column : Column) (h : column.Separable) :
    readGormTag version (tagOf version.dialect column).toText = some (column.gormContent version) ∧
      ∀ other : Column, other.Separable → other.gormContent version ≠ column.gormContent version →
        (tagOf version.dialect other).toText ≠ (tagOf version.dialect column).toText := by
  refine ⟨readGormTag_toText h, fun other hother hcontent htag => hcontent ?_⟩
  have hread : readGormTag version (tagOf version.dialect other).toText = some (other.gormContent version) :=
    readGormTag_toText hother
  rw [htag, readGormTag_toText h] at hread
  exact (Option.some.inj hread).symm

/-- A column in several indexes, with texts that look like clauses. -/
def Column.indexedBy (names : List String) : Column :=
  { name := "email", ordinal := 2, dataType := "varchar", columnType := "varchar(64)", nullable := false
    default := "default:none", length := 64, precision := 0, scale := 0, primaryKey := false
    autoIncrement := false, unsigned := false, comment := "comment: primary, unique"
    indexes := names.map fun name => ⟨name, 1, false, ""⟩, uniqueIndexes := [⟨"by_email", 1, true, ""⟩] }

/-- Two columns that differ in the order of their indexes have different tags. -/
theorem index_order_decoded :
    (Column.indexedBy ["by_name", "by_age"]).Separable ∧ (Column.indexedBy ["by_age", "by_name"]).Separable ∧
    readGormTag .two (tagOf .gormV2 (.indexedBy ["by_name", "by_age"])).toText =
      some ⟨false, false, "email", some "varchar(64)", true, ["by_name", "by_age"], ["by_email"],
        some "default:none", some "comment: primary, unique"⟩ ∧
    (tagOf .gormV2 (.indexedBy ["by_age", "by_name"])).toText ≠
      (tagOf .gormV2 (.indexedBy ["by_name", "by_age"])).toText := by
  have hfirst : (Column.indexedBy ["by_name", "by_age"]).Separable := by
    constructor <;> decide
  have hsecond : (Column.indexedBy ["by_age", "by_name"]).Separable := by
    constructor <;> decide
  obtain ⟨hread, hdiffer⟩ := gorm_tags_decoded .two (.indexedBy ["by_name", "by_age"]) hfirst
  exact ⟨hfirst, hsecond, hread, hdiffer (.indexedBy ["by_age", "by_name"]) hsecond (by decide)⟩

end TableCodegen
