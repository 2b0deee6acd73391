import Mathlib.Data.List.TakeWhile
import TableCodegen.Document.Gist.Request
import TableCodegen.Proofs.Field.View
import TableCodegen.Proofs.Naming.Initialism

/-!
# Variables for encoded values

The code that collects the columns to update declares a variable for every JSON column, named after the column. All
columns share the names of the fragment itself and the keywords of its language, but nothing keeps them apart.

Results:

* `exists_lowerCamelWords`, `map_toLower_lowerCamelChars`: what lower camel case makes small.
* `isIdentifier_variable`: the variable for a name in snake case is an identifier.
* `variable_mem_takenNames_iff`: the names whose variable is taken.
* `json_variables_free_iff`: the JSON columns whose variable is taken.

**Deviation.** A variable is meant to hold an encoded value. For a column `type` it is the keyword `type`, for a column
`err` it is declared together with itself, and the formatter or the compiler refuses the code.
-/

namespace TableCodegen

open TableCodegen.Text TableCodegen.Text.Unicode TableCodegen.Naming

/-! ## Specification -/

/-- A name in snake case: small letters, digits and underscores, and a letter first. -/
def IsSnakeName (name : String) : Prop :=
  name.toList.head?.any Char.isLower = true ∧ ∀ c ∈ name.toList, (c.isLower || c.isDigit || c == '_') = true

instance (name : String) : Decidable (IsSnakeName name) :=
  inferInstanceAs (Decidable (_ ∧ _))

/-- A letter first, and letters and digits after it. -/
def IsIdentifier (name : String) : Prop :=
  name.toList.head?.any Char.isAlpha = true ∧ ∀ c ∈ name.toList, c.isAlphanum = true

/-- The keywords of the language of the gists. -/
def keywords : List String := [
  "break", "case", "chan", "const", "continue", "default", "defer", "else", "fallthrough", "for", "func", "go", "goto",
  "if", "import", "interface", "map", "package", "range", "return", "select", "struct", "switch", "type", "var"]

/-- The names that the code for updates uses itself. -/
def fragmentNames : List String := ["err", "req", "updateMap"]

/-- The names that a variable must not have. -/
def takenNames : List String := keywords ++ fragmentNames

/-- The segments of names that lead to a variable: its words in small letters, and the same with the first word spelled
out. -/
def spellings (variableName : List Char) : List (List (List Char)) :=
  match capitalWords variableName with
  | [] => []
  | word :: rest =>
    let small := rest.map (List.map Char.toLower)
    [word :: small, word.map (fun c => [c]) ++ small]

end TableCodegen

namespace TableCodegen.Naming

open TableCodegen.Text TableCodegen.Text.Unicode

/-! ## Segments of names in snake case -/

theorem map_eq_self {α : Type} {f : α → α} {l : List α} (h : ∀ a ∈ l, f a = a) : l.map f = l :=
  (List.map_congr_left h).trans (List.map_id l)

theorem map_toLower_flatten {segments : List (List Char)} (h : ∀ s ∈ segments, s.map Char.toLower = s) :
    segments.flatten.map Char.toLower = segments.flatten := by
  rw [List.map_flatten, map_eq_self h]

section Snake

variable {name : String} (h : IsSnakeName name)
include h

theorem isAsciiName_of_isSnakeName : IsAsciiName name := by
  intro c hc
  have hchar := h.2 c hc
  simp only [Bool.or_eq_true, beq_iff_eq] at hchar
  refine hchar.imp_left fun hword => ?_
  obtain hlower | hdigit := hword
  · simp [Char.isAlphanum, isAlpha_eq, hlower]
  · simp [Char.isAlphanum, hdigit]

theorem toLower_of_mem_segments {segment : List Char} (hsegment : segment ∈ segments name.toList) :
    segment.map Char.toLower = segment := by
  have hword := isWord_of_mem_segments (isAsciiName_of_isSnakeName h) hsegment
  refine map_eq_self fun c hc => ?_
  obtain ⟨hmem, hne⟩ := mem_of_mem_runs hsegment hc
  have hchar := h.2 c hmem
  rw [hne, Bool.or_false] at hchar
  exact (caseForms (hword c hc)).toLower_of_small hchar

theorem head?_flatten_segments : (segments name.toList).flatten.head?.any Char.isLower = true := by
  rw [flatten_segments]
  have hfirst := h.1
  cases hcs : name.toList with
  | nil =>
    rw [hcs] at hfirst
    cases hfirst
  | cons c cs =>
    rw [hcs] at hfirst
    have hlower : c.isLower = true := hfirst
    have hne : (c == '_') = false := by
      refine beq_eq_false_iff_ne.mpr ?_
      rintro rfl
      cases hlower
    rw [List.filter_cons, hne]
    exact hlower

end Snake

/-! ## Lower camel case -/

theorem isUpper_or_toLower_eq (c : Char) : c.isUpper = true ∨ c.toLower = c := by
  by_cases h : c.val ≥ 'A'.val ∧ c.val ≤ 'Z'.val
  · exact .inl (isUpper_iff.mpr h)
  · exact .inr (dif_neg h)

theorem isAlphanum_of_toLower {c : Char} (h : c.toLower.isAlphanum = true) : c.isAlphanum = true := by
  obtain hupper | hsame := isUpper_or_toLower_eq c
  · simp [Char.isAlphanum, isAlpha_eq, hupper]
  · rwa [hsame] at h

theorem isAlpha_of_toLower {c : Char} (h : c.toLower.isLower = true) : c.isAlpha = true := by
  obtain hupper | hsame := isUpper_or_toLower_eq c
  · simp [isAlpha_eq, hupper]
  · rw [hsame] at h
    simp [isAlpha_eq, h]

theorem isSingle_iff {w : List Char} : isSingle w = true ↔ w.length = 1 := by
  match w with
  | [] => simp [isSingle]
  | [_] => simp [isSingle]
  | _ :: _ :: _ => simp [isSingle]

/-- Lower camel case makes words in front small: one word, or a run of words of one letter. -/
theorem exists_lowerCamelWords (words : List (List Char)) :
    ∃ front back, words = front ++ back ∧ lowerCamelWords words = front.flatMap lowerText ++ back.flatten ∧
      (words ≠ [] → front ≠ []) ∧ ((∀ w ∈ front, isSingle w = true) ∨ ∃ w, front = [w]) := by
  have hsplit := List.takeWhile_append_dropWhile (p := isSingle) (l := words)
  have hsingle : ∀ w ∈ words.takeWhile isSingle, isSingle w = true := fun w hw => List.mem_takeWhile_imp hw
  unfold lowerCamelWords
  split
  · rename_i htake hdrop
    rw [htake, hdrop] at hsplit
    exact ⟨[], [], hsplit.symm, rfl, fun hne => absurd hsplit.symm hne, .inl (List.forall_mem_nil _)⟩
  · rename_i w rest htake hdrop
    rw [htake, hdrop] at hsplit
    exact ⟨[w], rest, hsplit.symm, by rw [List.flatMap_singleton], fun _ => List.cons_ne_nil w [], .inr ⟨w, rfl⟩⟩
  · rename_i hnil hcons
    refine ⟨words.takeWhile isSingle, words.dropWhile isSingle, hsplit.symm, rfl, fun hne hnone => ?_, .inl hsingle⟩
    cases hdrop : words.dropWhile isSingle with
    | nil => exact hnil hnone hdrop
    | cons w rest => exact hcons w rest hnone hdrop

/-- Lower camel case changes nothing but case. -/
theorem map_toLower_lowerCamelChars {cs : List Char} (hcs : IsWord cs) :
    (lowerCamelChars cs).map Char.toLower = cs.map Char.toLower := by
  obtain ⟨front, back, hwords, hcamel, -, -⟩ := exists_lowerCamelWords (capitalWords cs)
  have hflat := flatten_capitalWords cs
  rw [hwords, List.flatten_append] at hflat
  have hfront : IsWord front.flatten := fun c hc => hcs c (hflat ▸ List.mem_append_left _ hc)
  have hsmall : front.flatMap lowerText = front.flatten.map Char.toLower := by
    rw [List.map_flatten, List.flatMap_def]
    refine congrArg _ (List.map_congr_left fun w hw => lowerText_eq_map fun c hc => ?_)
    exact hfront c (List.mem_flatten.mpr ⟨w, hw, hc⟩)
  have hagain : (front.flatten.map Char.toLower).map Char.toLower = front.flatten.map Char.toLower := by
    rw [List.map_map]
    exact List.map_congr_left fun c _ => toLower_toLower c
  rw [lowerCamelChars, hcamel, hsmall, List.map_append, hagain, ← List.map_append, hflat]

/-- The words of segments in title case are found again. -/
theorem capitalWords_flatten_titleChars {segments : List (List Char)}
    (hwords : ∀ s ∈ segments, IsWord s ∧ s ≠ [] ∧ startsWithDigit s = false) :
    capitalWords (segments.map titleChars).flatten = segments.map titleChars ∧
      ∀ c ∈ (segments.map titleChars).flatten.head?, Unicode.isUpper c = true := by
  induction segments with
  | nil => exact ⟨rfl, fun c hc => nomatch hc⟩
  | cons segment rest ih =>
    obtain ⟨⟨hword, hne, hletter⟩, hrest⟩ := List.forall_mem_cons.mp hwords
    obtain ⟨ihwords, ihhead⟩ := ih hrest
    cases segment with
    | nil => exact absurd rfl hne
    | cons c cs =>
      obtain ⟨hc, hcs⟩ := hword.of_cons
      have hdigit : c.isDigit = false := hletter
      have htail : ∀ d ∈ cs.map Char.toLower, Unicode.isUpper d = false := fun d hd => by
        rw [isUpper_eq (isWord_map_toLower hcs d hd)]
        exact not_isUpper_map_toLower hcs d hd
      have htitle := titleChars_cons hword
      rw [List.map_cons, List.flatten_cons]
      constructor
      · rw [capitalWords_append ihhead, ihwords, htitle, capitalWords_of_tail htail]
        rfl
      · rw [htitle]
        intro d hd
        cases hd
        rw [isUpper_eq (caseForms hc).isAlphanum_toUpper, (caseForms hc).isUpper_toUpper, hdigit]
        rfl

/-! ## Variables -/

/-- Small letters of any kind in front of words in title case are a word by themselves. -/
theorem capitalWords_small_append {small : List Char} (hsmall : IsWord small)
    (hlower : small.map Char.toLower = small) (hne : small ≠ []) {segments : List (List Char)}
    (hwords : ∀ s ∈ segments, IsWord s ∧ s ≠ [] ∧ startsWithDigit s = false) :
    capitalWords (small ++ (segments.map titleChars).flatten) = small :: segments.map titleChars := by
  obtain ⟨hsegments, hhead⟩ := capitalWords_flatten_titleChars hwords
  obtain ⟨c, cs, rfl⟩ := List.exists_cons_of_ne_nil hne
  rw [List.map_cons, List.cons.injEq] at hlower
  have htail : ∀ d ∈ cs, Unicode.isUpper d = false := fun d hd => by
    rw [isUpper_eq (hsmall.of_cons.2 d hd)]
    exact not_isUpper_map_toLower hsmall.of_cons.2 d (hlower.2.symm ▸ hd)
  rw [capitalWords_append hhead, hsegments, capitalWords_of_tail htail]
  rfl

theorem map_singleton_flatten {words : List (List Char)} (h : ∀ w ∈ words, isSingle w = true) :
    words.flatten.map (fun c => [c]) = words := by
  induction words with
  | nil => rfl
  | cons w words ih =>
    obtain ⟨hw, hwords⟩ := List.forall_mem_cons.mp h
    match w, hw with
    | [c], _ => rw [List.flatten_cons, List.map_append, ih hwords]; rfl

/-- The segments behind a variable are a spelling of it. -/
theorem segments_mem_spellings {segments : List (List Char)} (hne : segments ≠ [])
    (hwords : ∀ s ∈ segments, IsWord s ∧ s ≠ [] ∧ startsWithDigit s = false)
    (hsmall : ∀ s ∈ segments, s.map Char.toLower = s) :
    segments ∈ spellings (lowerCamelWords (segments.map titleChars)) := by
  obtain ⟨front, back, hsplit, hcamel, hfront, hshape⟩ := exists_lowerCamelWords (segments.map titleChars)
  obtain ⟨first, rest, rfl, rfl, rfl⟩ := List.map_eq_append_iff.mp hsplit
  obtain ⟨hfirstWords, hrestWords⟩ := List.forall_mem_append.mp hwords
  obtain ⟨hfirstSmall, hrestSmall⟩ := List.forall_mem_append.mp hsmall
  have hlower : (first.map titleChars).flatMap lowerText = first.flatten := by
    rw [List.flatMap_def, List.map_map, map_eq_self fun s hs => ?_]
    have hword := (hfirstWords s hs).1
    rw [Function.comp_apply, lowerText_eq_map (isWord_titleChars hword), map_toLower_titleChars hword,
      hfirstSmall s hs]
  have hflat : first.flatten.map Char.toLower = first.flatten := map_toLower_flatten hfirstSmall
  have hflatNe : first.flatten ≠ [] := by
    have hfirstNe : first ≠ [] := by
      rintro rfl
      exact hfront (by simpa using hne) rfl
    obtain ⟨s, more, rfl⟩ := List.exists_cons_of_ne_nil hfirstNe
    have := (hfirstWords s List.mem_cons_self).2.1
    simp [this]
  have hback : (rest.map titleChars).map (List.map Char.toLower) = rest := by
    rw [List.map_map]
    refine map_eq_self fun s hs => ?_
    rw [Function.comp_apply, map_toLower_titleChars (hrestWords s hs).1, hrestSmall s hs]
  rw [hcamel, hlower, spellings,
    capitalWords_small_append (isWord_flatten fun s hs => (hfirstWords s hs).1) hflat hflatNe hrestWords]
  simp only [hback, List.mem_cons, List.not_mem_nil, or_false]
  obtain hsingle | ⟨w, hw⟩ := hshape
  · right
    have hsingles : ∀ s ∈ first, isSingle s = true := by
      intro s hs
      have htitle := hsingle (titleChars s) (List.mem_map_of_mem hs)
      have hlength := congrArg List.length (map_toLower_titleChars (hfirstWords s hs).1)
      rw [List.length_map, List.length_map] at hlength
      rwa [isSingle_iff, ← hlength, ← isSingle_iff]
    rw [map_singleton_flatten hsingles]
  · left
    obtain ⟨s, rfl, -⟩ := List.map_eq_singleton_iff.mp hw
    simp

/-! ## Taken names -/

theorem not_infix_of_mem_takenNames : ∀ taken ∈ takenNames, ∀ word ∈ initialisms,
    ¬ word.toList.map Char.toLower <:+: taken.toList.map Char.toLower := by decide +kernel

theorem isDigit_of_mem_takenNames :
    ∀ taken ∈ takenNames, ∀ c ∈ taken.toList.map Char.toLower, c.isDigit = false := by decide +kernel

/-- A spelling of a taken name leads to it, with and without initialisms. -/
theorem lowerCamelChars_of_mem_spellings : ∀ taken ∈ takenNames, ∀ segments ∈ spellings taken.toList,
    ∀ enableInitialism, lowerCamelChars (segments.flatMap (exportedSegment enableInitialism)) = taken.toList := by
  decide +kernel

section Variable

variable {name : String} (h : IsSnakeName name) (enableInitialism : Bool)
include h

theorem map_toLower_variable :
    (lowerCamelName (exportedName enableInitialism name)).toList.map Char.toLower =
      (segments name.toList).flatten := by
  have hname := isAsciiName_of_isSnakeName h
  rw [lowerCamelName, exportedName, String.toList_ofList, String.toList_ofList,
    map_toLower_lowerCamelChars (isWord_exportedChars hname enableInitialism),
    map_toLower_exportedChars hname enableInitialism, map_toLower_flatten fun _ => toLower_of_mem_segments h]

/-- The variable for a name in snake case is an identifier. -/
theorem isIdentifier_variable : IsIdentifier (lowerCamelName (exportedName enableInitialism name)) := by
  have hsmall := map_toLower_variable h enableInitialism
  have hword : IsWord (segments name.toList).flatten :=
    isWord_flatten fun s hs => isWord_of_mem_segments (isAsciiName_of_isSnakeName h) hs
  have hhead := head?_flatten_segments h
  rw [← hsmall] at hword hhead
  refine ⟨?_, fun c hc => isAlphanum_of_toLower (hword _ (List.mem_map_of_mem hc))⟩
  rw [List.head?_map, Option.any_map] at hhead
  obtain ⟨c, hc, hlower⟩ := (Option.any_eq_true _ _).mp hhead
  rw [hc]
  exact isAlpha_of_toLower hlower

/-- The names whose variable is taken are the spellings of the taken names. -/
theorem variable_mem_takenNames_iff :
    lowerCamelName (exportedName enableInitialism name) ∈ takenNames ↔
      ∃ taken ∈ takenNames, segments name.toList ∈ spellings taken.toList := by
  have hname := isAsciiName_of_isSnakeName h
  constructor
  · intro htaken
    have hsmall := map_toLower_variable h enableInitialism
    have hwithin : ∀ s ∈ segments name.toList, s <:+: (segments name.toList).flatten :=
      fun s hs => List.infix_of_mem_flatten hs
    have hwords : ∀ s ∈ segments name.toList, IsWord s ∧ s ≠ [] ∧ startsWithDigit s = false := by
      intro s hs
      refine ⟨isWord_of_mem_segments hname hs, ne_nil_of_mem_segments hs, ?_⟩
      cases s with
      | nil => rfl
      | cons c s =>
        refine isDigit_of_mem_takenNames _ htaken c ?_
        rw [hsmall]
        exact (hwithin _ hs).subset List.mem_cons_self
    have hplain : ∀ s ∈ segments name.toList, isInitialismChars s = false := by
      intro s hs
      refine Bool.eq_false_iff.mpr fun hinit => ?_
      obtain ⟨word, hword, heq⟩ := exists_of_isInitialismChars (hwords s hs).1 hinit
      refine not_infix_of_mem_takenNames _ htaken word hword ?_
      rw [heq, map_toLower_map_toUpper (hwords s hs).1, toLower_of_mem_segments h hs, hsmall]
      exact hwithin s hs
    have hexported : exportedChars enableInitialism name.toList = ((segments name.toList).map titleChars).flatten := by
      rw [exportedChars, List.flatMap_def]
      refine congrArg _ (List.map_congr_left fun s hs => ?_)
      rw [exportedSegment, hplain s hs, Bool.and_false, if_neg Bool.false_ne_true]
    refine ⟨_, htaken, ?_⟩
    rw [lowerCamelName, exportedName, String.toList_ofList, String.toList_ofList, hexported, lowerCamelChars,
      (capitalWords_flatten_titleChars hwords).1]
    refine segments_mem_spellings ?_ hwords fun s hs => toLower_of_mem_segments h hs
    intro hnil
    have hhead := head?_flatten_segments h
    rw [hnil] at hhead
    cases hhead
  · rintro ⟨taken, htaken, hspelled⟩
    have heq := lowerCamelChars_of_mem_spellings taken htaken _ hspelled enableInitialism
    rw [lowerCamelName, exportedName, String.toList_ofList, exportedChars, heq, String.ofList_toList]
    exact htaken

end Variable

end TableCodegen.Naming

namespace TableCodegen

open TableCodegen.Naming

/-! ## Results -/

theorem exists_column_of_mem_entries {table : Table} {config : GenerationConfig} {api : ApiConfig}
    {entry : UpdateEntry} (h : entry ∈ (UpdateFragment.ofEntity (buildEntity table config api)).entries) :
    ∃ column ∈ table.columns, entry.rawName = column.name ∧
      entry.variableName = lowerCamelName (exportedName config.enableInitialism column.name) := by
  obtain ⟨field, hfield, rfl⟩ := List.mem_map.mp h
  have hentity : field ∈ apiFields config table.columns := List.mem_of_mem_filter (List.mem_of_mem_filter hfield)
  obtain ⟨source, hsource, rfl⟩ := List.mem_map.mp hentity
  obtain ⟨column, hcolumn, rfl⟩ := List.mem_map.mp hsource
  refine ⟨column, List.mem_of_mem_filter hcolumn, ?_, ?_⟩
  · rw [UpdateEntry.ofField, Field.rawName_toApi]
    rfl
  · rw [UpdateEntry.ofField, Field.name_toApi]
    rfl

/-- The variable that the code for updates declares for a JSON column is an identifier, and it is a keyword or a name
that the code uses itself exactly if the column spells such a name: whole, or with its first word in single letters. -/
theorem json_variables_free_iff (table : Table) (hnames : ∀ column ∈ table.columns, IsSnakeName column.name)
    (config : GenerationConfig) (api : ApiConfig) :
    ∀ entry ∈ (UpdateFragment.ofEntity (buildEntity table config api)).entries, entry.access = .json →
      IsIdentifier entry.variableName ∧
        (entry.variableName ∈ takenNames ↔
          ∃ taken ∈ takenNames, segments entry.rawName.toList ∈ spellings taken.toList) := by
  intro entry hentry _
  obtain ⟨column, hcolumn, hraw, hvariable⟩ := exists_column_of_mem_entries hentry
  have hsnake := hnames column hcolumn
  rw [hraw, hvariable]
  exact ⟨isIdentifier_variable hsnake _, variable_mem_takenNames_iff hsnake _⟩

/-- A JSON column. -/
def jsonColumn (name : String) : Column :=
  Column.ofRow { name := name, ordinal := 1, dataType := "json", columnType := "json", nullable := "NO" } []

/-- A table with two JSON columns, one of them with a keyword for a name. -/
def jsonTable : Table where
  name := "user"
  comment := ""
  columns := [jsonColumn "type", jsonColumn "type_name"]
  indexes := ⟨[], []⟩

/-- The variable for a column `type` is a keyword, that for `type_name` is free. -/
theorem type_declared_as_keyword :
    (UpdateFragment.ofEntity (buildEntity jsonTable {} {})).entries.flatMap UpdateEntry.lines =
        ["if req.Type != nil \x7b", "\ttype, err := json.Marshal(req.Type)", "\tif err != nil \x7b",
          "\t\treturn nil, err", "\t\x7d", "\tupdateMap[\"type\"] = datatypes.JSON(type)", "\x7d",
          "if req.TypeName != nil \x7b", "\ttypeName, err := json.Marshal(req.TypeName)", "\tif err != nil \x7b",
          "\t\treturn nil, err", "\t\x7d", "\tupdateMap[\"type_name\"] = datatypes.JSON(typeName)", "\x7d"] ∧
      IsIdentifier "type" ∧ "type" ∈ takenNames ∧ IsIdentifier "typeName" ∧ "typeName" ∉ takenNames := by
  have hnames : ∀ column ∈ jsonTable.columns, IsSnakeName column.name := by decide +kernel
  have hfree := json_variables_free_iff jsonTable hnames {} {}
  obtain ⟨htype, htaken⟩ := hfree ⟨"Type", "type", .json, "type"⟩ (by decide +kernel) rfl
  obtain ⟨hname, hnot⟩ := hfree ⟨"TypeName", "type_name", .json, "typeName"⟩ (by decide +kernel) rfl
  have hspelled : ∃ taken ∈ takenNames, segments "type".toList ∈ spellings taken.toList :=
    ⟨"type", by decide +kernel, by decide +kernel⟩
  have hapart : ¬ ∃ taken ∈ takenNames, segments "type_name".toList ∈ spellings taken.toList := by decide +kernel
  exact ⟨by decide +kernel, htype, htaken.mpr hspelled, hname, mt hnot.mp hapart⟩

end TableCodegen
