import TableCodegen.Catalog.Table
import TableCodegen.Data.Loose

/-!
# Names in index groupings

A grouping is a text with the quoted names of an index. Here it is read back, character by character, so that
it can be said which names it lists. The names come from the rows of secondary indexes alone.

Results:

* `foldlM_literal`: a quoted name is read as the name.
* `TableIndexes.readGrouping_quotedColumns`, `TableIndexes.readGrouping_grouping`: the names that a grouping lists.
* `TableIndexes.mem_groupings_iff`: some index rows have one grouping for each of their indexes.
* `TableIndexes.listedIn_groupings_iff`: the groupings of some index rows list the names of their columns.
* `TableIndexes.listedIn_ofRows_iff`: the names that the groupings of a table list.
-/

namespace TableCodegen

open TableCodegen.Text

/-! ## Reading of groupings -/

/-- Where the reading of a grouping is. -/
inductive GroupingPlace where
  /-- In front of a name. -/
  | gap
  /-- In a name, behind its first characters. -/
  | name (word : List Char)
  /-- Behind the backslash of an escape. -/
  | escape (word : List Char)
  /-- In front of the bracket around the number of a character. -/
  | bracket (word : List Char)
  /-- In the number of a character. -/
  | number (word : List Char) (value : Nat)
  /-- Right behind a name. -/
  | closed
  deriving Repr, DecidableEq

/-- The names that have been read, and the place behind them. -/
structure GroupingReading where
  names : List String
  place : GroupingPlace
  deriving Repr, DecidableEq

/-- The character that an escape of one letter stands for. -/
def letterEscape? (c : Char) : Option Char :=
  if c = '0' then some (Char.ofNat 0)
  else if c = 't' then some '\t'
  else if c = 'r' then some '\r'
  else if c = 'n' then some '\n'
  else if c = '"' ∨ c = '\\' then some c
  else none

namespace GroupingReading

/-- One more character, unless no grouping goes on with it. -/
def step (reading : GroupingReading) (c : Char) : Option GroupingReading :=
  match reading.place with
  | .gap => if c = '"' then some { reading with place := .name [] } else none
  | .name word =>
    if c = '"' then some ⟨reading.names ++ [String.ofList word], .closed⟩
    else if c = '\\' then some { reading with place := .escape word }
    else some { reading with place := .name (word ++ [c]) }
  | .escape word =>
    if c = 'u' then some { reading with place := .bracket word }
    else (letterEscape? c).map fun d => { reading with place := .name (word ++ [d]) }
  | .bracket word => if c = '\x7b' then some { reading with place := .number word 0 } else none
  | .number word value =>
    if c = '\x7d' then some { reading with place := .name (word ++ [Char.ofNat value]) }
    else (digitValue? 16 c).map fun digit => { reading with place := .number word (value * 16 + digit) }
  | .closed => if c = ',' then some { reading with place := .gap } else none

end GroupingReading

/-- The names that a grouping lists. -/
def readGrouping (grouping : String) : Option (List String) := do
  let reading ← grouping.toList.foldlM GroupingReading.step ⟨[], .gap⟩
  if reading.place = .closed then some reading.names else none

/-- A name is listed by one of some groupings. -/
def ListedIn (groupings : List String) (name : String) : Prop :=
  ∃ grouping ∈ groupings, ∃ names, readGrouping grouping = some names ∧ name ∈ names

example : readGrouping "\"UserId\",\"a\\u\x7b200b\x7d\\\"b\"" =
    some ["UserId", String.ofList ['a', Char.ofNat 0x200b, '"', 'b']] := by decide +kernel

/-! ## Quoted names -/

section Literal

variable (names : List String) (word : List Char)

/-- The digits of a number are read as the number: each digit adds one place to what was read before. -/
theorem foldlM_hexDigits (n : Nat) :
    (hexDigits n).foldlM GroupingReading.step ⟨names, .number word 0⟩ = some ⟨names, .number word n⟩ := by
  have hdigit : ∀ d < 16, d.digitChar ≠ '\x7d' ∧ digitValue? 16 d.digitChar = some d := by decide
  have hstep (value d : Nat) (hd : d < 16) :
      GroupingReading.step ⟨names, .number word value⟩ d.digitChar =
        some ⟨names, .number word (value * 16 + d)⟩ := by
    obtain ⟨hbrace, hvalue⟩ := hdigit d hd
    simp [GroupingReading.step, hbrace, hvalue]
  unfold hexDigits
  induction n using Nat.strongRecOn with
  | ind n ih =>
    by_cases hn : n < 16
    · rw [Nat.toDigits_of_lt_base hn, List.foldlM_cons, hstep 0 n hn, Nat.zero_mul, Nat.zero_add]
      rfl
    · have hlt : n / 16 < n := by omega
      have hn' : n / 16 * 16 + n % 16 = n := by omega
      rw [Nat.toDigits_of_base_le (by decide) (by omega), List.foldlM_append, ih (n / 16) hlt,
        Option.bind_eq_bind, Option.bind_some, List.foldlM_cons, hstep _ _ (Nat.mod_lt n (by decide)), hn']
      rfl

/-- An escape with one letter is read as the character that it stands for. -/
theorem foldlM_letterEscape {letter c : Char} (hletter : letter ≠ 'u') (h : letterEscape? letter = some c) :
    ['\\', letter].foldlM GroupingReading.step ⟨names, .name word⟩ =
      some ⟨names, .name (word ++ [c])⟩ := by
  simp [GroupingReading.step, hletter, h]

/-- An escape with a number is read as the character of the number. -/
theorem foldlM_numberEscape (c : Char) :
    (['\\', 'u', '\x7b'] ++ hexDigits c.toNat ++ ['\x7d']).foldlM GroupingReading.step ⟨names, .name word⟩ =
      some ⟨names, .name (word ++ [c])⟩ := by
  have hopen : ['\\', 'u', '\x7b'].foldlM GroupingReading.step ⟨names, .name word⟩ =
      some ⟨names, .number word 0⟩ := by
    simp [GroupingReading.step]
  rw [List.foldlM_append, List.foldlM_append, hopen, Option.bind_eq_bind, Option.bind_some, foldlM_hexDigits,
    Option.bind_some]
  simp [GroupingReading.step, Char.ofNat_toNat]

/-- A character of a quoted name is read as the character. -/
theorem foldlM_escapeChar (c : Char) :
    (escapeChar c).foldlM GroupingReading.step ⟨names, .name word⟩ = some ⟨names, .name (word ++ [c])⟩ := by
  unfold escapeChar
  by_cases hzero : c.toNat = 0
  · rw [if_pos hzero]
    apply foldlM_letterEscape names word (by decide)
    rw [← Char.ofNat_toNat c, hzero]
    rfl
  by_cases htab : c = '\t'
  · subst htab
    exact foldlM_letterEscape names word (by decide) rfl
  by_cases hreturn : c = '\r'
  · subst hreturn
    exact foldlM_letterEscape names word (by decide) rfl
  by_cases hfeed : c = '\n'
  · subst hfeed
    exact foldlM_letterEscape names word (by decide) rfl
  by_cases hquote : c = '"'
  · subst hquote
    exact foldlM_letterEscape names word (by decide) rfl
  by_cases hslash : c = '\\'
  · subst hslash
    exact foldlM_letterEscape names word (by decide) rfl
  rw [if_neg hzero, if_neg htab, if_neg hreturn, if_neg hfeed, if_neg hquote, if_neg hslash]
  split
  · exact foldlM_numberEscape names word c
  · simp [GroupingReading.step, hquote, hslash]

theorem foldlM_flatMap_escapeChar (cs : List Char) :
    (cs.flatMap escapeChar).foldlM GroupingReading.step ⟨names, .name word⟩ =
      some ⟨names, .name (word ++ cs)⟩ := by
  induction cs generalizing word with
  | nil => simp
  | cons c cs ih =>
    rw [List.flatMap_cons, List.foldlM_append, foldlM_escapeChar, Option.bind_eq_bind, Option.bind_some, ih]
    simp

/-- A quoted name is read as the name. -/
theorem foldlM_literal (cs : List Char) :
    (literal cs).foldlM GroupingReading.step ⟨names, .gap⟩ = some ⟨names ++ [String.ofList cs], .closed⟩ := by
  have hbody := foldlM_flatMap_escapeChar names [] cs
  rw [List.nil_append] at hbody
  unfold literal
  rw [List.foldlM_append, List.foldlM_append]
  simp [GroupingReading.step, hbody]

end Literal

/-- Quoted names between commas are read as the names. -/
theorem readGrouping_intercalate {texts : List (List Char)} (h : texts ≠ []) :
    readGrouping (",".intercalate (texts.map fun cs => String.ofList (literal cs))) =
      some (texts.map String.ofList) := by
  -- induction on the texts, behind any names
  have hrun (names : List String) : ∀ texts : List (List Char), texts ≠ [] →
      ((",".intercalate (texts.map fun cs => String.ofList (literal cs))).toList).foldlM GroupingReading.step
        ⟨names, .gap⟩ = some ⟨names ++ texts.map String.ofList, .closed⟩ := by
    intro texts
    induction texts generalizing names with
    | nil => simp
    | cons cs texts ih =>
      intro _
      cases texts with
      | nil => simp [foldlM_literal]
      | cons next texts =>
        have hrest := ih (names ++ [String.ofList cs]) (List.cons_ne_nil _ _)
        have hsplit : ",".intercalate ((cs :: next :: texts).map fun cs => String.ofList (literal cs)) =
            String.ofList (literal cs) ++ "," ++
              ",".intercalate ((next :: texts).map fun cs => String.ofList (literal cs)) := by
          rw [List.map_cons, List.map_cons, String.intercalate_cons_cons]
        have hcomma : ",".toList.foldlM GroupingReading.step ⟨names ++ [String.ofList cs], .closed⟩ =
            some ⟨names ++ [String.ofList cs], .gap⟩ := rfl
        rw [hsplit]
        simp only [String.toList_append, String.toList_ofList, List.foldlM_append, foldlM_literal,
          Option.bind_eq_bind, Option.bind_some]
        rw [hcomma, Option.bind_some, hrest, List.append_assoc]
        rfl
  unfold readGrouping
  rw [hrun [] texts h]
  simp

/-! ## Groupings of a table -/

/-- A text is kept just if it is there. -/
theorem mem_uniqueStrings {value : String} {values : List String} :
    value ∈ uniqueStrings values ↔ value ∈ values := by
  have hstep (kept : List String) (next : String) :
      value ∈ (if kept.contains next then kept else kept ++ [next]) ↔ value ∈ kept ∨ value = next := by
    by_cases hnext : next ∈ kept
    · simp only [List.contains_iff_mem, hnext, if_true]
      constructor
      · exact Or.inl
      · rintro (h | rfl)
        · exact h
        · exact hnext
    · simp [hnext]
  have hfold : ∀ kept : List String,
      value ∈ values.foldl (fun kept value => if kept.contains value then kept else kept ++ [value]) kept ↔
        value ∈ kept ∨ value ∈ values := by
    induction values with
    | nil => simp
    | cons next values ih =>
      intro kept
      rw [List.foldl_cons, ih, hstep, List.mem_cons, or_assoc]
  unfold uniqueStrings
  rw [hfold]
  simp

namespace TableIndexes

variable (enableInitialism : Bool) {rows : List IndexRow}

/-- Quoted columns are read as their exported names. -/
theorem readGrouping_quotedColumns {columns : List IndexRow} (h : columns ≠ []) :
    readGrouping (",".intercalate (columns.map (quotedColumn enableInitialism))) =
      some (columns.map fun row => Naming.exportedName enableInitialism row.columnName) := by
  have hnames : (columns.map fun row => Naming.exportedChars enableInitialism row.columnName.toList) ≠ [] := by
    simpa using h
  have hread := readGrouping_intercalate hnames
  rw [List.map_map, List.map_map] at hread
  exact hread

/-- A grouping lists the exported columns of its rows. -/
theorem readGrouping_grouping (h : rows ≠ []) :
    ∃ names, readGrouping (grouping enableInitialism rows) = some names ∧
      ∀ name, name ∈ names ↔ ∃ row ∈ rows, name = Naming.exportedName enableInitialism row.columnName := by
  have hperm := List.mergeSort_perm rows fun a b => a.seqInIndex ≤ b.seqInIndex
  unfold grouping
  generalize (rows.mergeSort fun a b => a.seqInIndex ≤ b.seqInIndex) = ordered at hperm
  have hordered : ordered ≠ [] := fun hnil => h (hnil ▸ hperm).symm.eq_nil
  refine ⟨_, readGrouping_quotedColumns enableInitialism hordered, fun name => ?_⟩
  rw [List.mem_map]
  constructor
  · rintro ⟨row, hrow, rfl⟩
    exact ⟨row, hperm.mem_iff.mp hrow, rfl⟩
  · rintro ⟨row, hrow, rfl⟩
    exact ⟨row, hperm.mem_iff.mpr hrow, rfl⟩

theorem mem_groupings_iff {text : String} :
    text ∈ groupings enableInitialism rows ↔
      ∃ row ∈ rows, text = grouping enableInitialism (rows.filter (·.indexName == row.indexName)) := by
  have hname (name : String) : name ∈ indexNames rows ↔ ∃ row ∈ rows, row.indexName = name := by
    unfold indexNames
    rw [mem_uniqueStrings, List.mem_mergeSort, List.mem_map]
  unfold groupings
  rw [mem_uniqueStrings, List.mem_map]
  constructor
  · rintro ⟨name, hmem, rfl⟩
    obtain ⟨row, hrow, rfl⟩ := (hname name).mp hmem
    exact ⟨row, hrow, rfl⟩
  · rintro ⟨row, hrow, rfl⟩
    exact ⟨row.indexName, (hname _).mpr ⟨row, hrow, rfl⟩, rfl⟩

/-- Every grouping of a table can be read, and each lists names of the index rows. -/
theorem readGrouping_of_mem_groupings {text : String} (h : text ∈ groupings enableInitialism rows) :
    ∃ names, readGrouping text = some names ∧
      ∀ name ∈ names, ∃ row ∈ rows, name = Naming.exportedName enableInitialism row.columnName := by
  obtain ⟨row, hrow, rfl⟩ := (mem_groupings_iff enableInitialism).mp h
  have hmem : row ∈ rows.filter (·.indexName == row.indexName) := List.mem_filter.mpr ⟨hrow, by simp⟩
  obtain ⟨names, hread, hnames⟩ := readGrouping_grouping enableInitialism (List.ne_nil_of_mem hmem)
  refine ⟨names, hread, fun name hname => ?_⟩
  obtain ⟨other, hother, rfl⟩ := (hnames name).mp hname
  exact ⟨other, (List.mem_filter.mp hother).1, rfl⟩

/-- The groupings of some index rows list the names of their columns, and no others. -/
theorem listedIn_groupings_iff {name : String} :
    ListedIn (groupings enableInitialism rows) name ↔
      ∃ row ∈ rows, name = Naming.exportedName enableInitialism row.columnName := by
  constructor
  · rintro ⟨text, htext, names, hread, hname⟩
    obtain ⟨others, hothers, hcolumns⟩ := readGrouping_of_mem_groupings enableInitialism htext
    cases hread.symm.trans hothers
    exact hcolumns name hname
  · rintro ⟨row, hrow, rfl⟩
    have hmem : row ∈ rows.filter (·.indexName == row.indexName) := List.mem_filter.mpr ⟨hrow, by simp⟩
    obtain ⟨names, hread, hnames⟩ := readGrouping_grouping enableInitialism (List.ne_nil_of_mem hmem)
    exact ⟨_, (mem_groupings_iff enableInitialism).mpr ⟨row, hrow, rfl⟩, names, hread,
      (hnames _).mpr ⟨row, hmem, rfl⟩⟩

/-- Both kinds of groupings together list the columns of all secondary indexes. -/
theorem listedIn_ofRows_iff {name : String} :
    (ListedIn (ofRows enableInitialism rows).normal name ∨
      ListedIn (ofRows enableInitialism rows).unique name) ↔
        ∃ row ∈ rows, row.isSecondary = true ∧
          name = Naming.exportedName enableInitialism row.columnName := by
  unfold ofRows
  simp only [listedIn_groupings_iff, List.mem_filter, and_assoc]
  constructor
  · rintro (⟨row, hrow, hsecondary, -, rfl⟩ | ⟨row, hrow, hsecondary, -, rfl⟩)
    · exact ⟨row, hrow, hsecondary, rfl⟩
    · exact ⟨row, hrow, hsecondary, rfl⟩
  · rintro ⟨row, hrow, hsecondary, rfl⟩
    cases hkind : row.isUnique with
    | false => exact Or.inl ⟨row, hrow, hsecondary, by simp [hkind], rfl⟩
    | true => exact Or.inr ⟨row, hrow, hsecondary, hkind, rfl⟩

/-- All groupings of a table can be read. -/
theorem isSome_readGrouping_ofRows {text : String}
    (h : text ∈ (ofRows enableInitialism rows).normal ∨ text ∈ (ofRows enableInitialism rows).unique) :
    (readGrouping text).isSome = true := by
  obtain ⟨names, hread, -⟩ | ⟨names, hread, -⟩ :=
    h.imp (readGrouping_of_mem_groupings enableInitialism) (readGrouping_of_mem_groupings enableInitialism)
  all_goals
    rw [hread]
    rfl

end TableIndexes

end TableCodegen
