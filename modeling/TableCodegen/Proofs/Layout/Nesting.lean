import TableCodegen.Proofs.Layout.LineShape

/-!
# Indentation and nesting

The layout counts brackets by the shapes of lines, in one counter for the lines outside blocks and another
for the lines of a block. On structured lines both are the number of brackets that are open.

Results:

* `Accepted.depthBehind_eq`, `Accepted.standsAt`: what one line adds to the counters.
* `Closes.openBehind_eq`, `StaysOpen.openBehind_eq`: the counter within a block.
* `Laid.nested`: the rules of the layout, with the number of open brackets in the place of the counters.
* `Laid.nestedLayout`: the layout of an accepted document whose outline is known.
* `layOut_nested`: depths and blocks of an accepted document with structured lines, for every formatter.
-/

namespace TableCodegen

open TableCodegen.Text

/-! ## Specification -/

/-- The brackets that are open behind some lines. -/
def openBehind (ls : List (List Char)) : Int :=
  nesting (sidesFrom .code ls)

/-- All lines of the document are structured. -/
def LineStructured (document : List Char) : Prop :=
  ∀ line ∈ lines document, StructuredLine line

/-- A line behind the lines `before` that starts a block of types: no bracket is open before it, its code
starts with `type` and ends with an opener. -/
structure StartsBlock (before : List (List Char)) (raw : List Char) : Prop where
  outermost : openBehind before = 0
  word : "type".toList <+: codePart raw
  opener : endsOpen (codePart raw) = true

/-- A line behind the lines `before` stands at a depth: the brackets that are open before it, or one less
if it closes a bracket and is nothing else. -/
def StandsAt (before : List (List Char)) (raw : List Char) (depth : Nat) : Prop :=
  (depth : Int) = openBehind before - if isLoneCloser (codePart raw) then 1 else 0

/-- Nothing or a blank line. -/
def IsGap (gap : List Char) : Prop :=
  gap = [] ∨ gap = ['\n']

/-- The text of the parts of a document that stand behind the lines `before`. -/
inductive Nested (formatter : SourceFormatter) : List (List Char) → List Part → List Char → Prop where
  | done (before : List (List Char)) : Nested formatter before [] []
  | blank {before : List (List Char)} {raw gap text : List Char} {parts : List Part}
      (hraw : trim raw = []) (hgap : IsGap gap) (hrest : Nested formatter (before ++ [raw]) parts text) :
      Nested formatter before (.line raw :: parts) (gap ++ text)
  | line {before : List (List Char)} {raw gap text : List Char} {parts : List Part} {depth : Nat}
      (hraw : trim raw ≠ []) (hstart : ¬ StartsBlock before raw) (hdepth : StandsAt before raw depth)
      (hgap : IsGap gap) (hrest : Nested formatter (before ++ [raw]) parts text) :
      Nested formatter before (.line raw :: parts)
        (gap ++ (List.replicate depth '\t' ++ trim raw ++ '\n' :: text))
  /-- A block goes on to the first line behind which no bracket is open. -/
  | block {before : List (List Char)} {first gap text : List Char} {rest : List (List Char)}
      {parts : List Part} {source formatted : String} (hstart : StartsBlock before first)
      (hinside : ∀ front, front <+: rest → front ≠ rest → 0 < openBehind (before ++ first :: front))
      (hclose : openBehind (before ++ first :: rest) = 0) (hgap : IsGap gap)
      (hsource : (Part.block first rest).source? = some source) (hformat : formatter source = .ok formatted)
      (hrest : Nested formatter (before ++ first :: rest) parts text) :
      Nested formatter before (.block first rest :: parts)
        (gap ++ (withFinalFeed (withoutKeyword formatted.toList) ++ text))

/-- The layout of a document, told by the brackets that are open. -/
structure NestedLayout (formatter : SourceFormatter) (document out : String) (parts : List Part)
    (text : List Char) : Prop where
  lines : parts.flatMap Part.lines = lines document.toList
  nested : Nested formatter [] parts text
  trimmed : out = String.ofList (trim text)
  /-- A line outside blocks that is not blank is a line of the layout, behind its tabs. -/
  indented : ∀ before raw after, parts = before ++ .line raw :: after → trim raw ≠ [] →
    ∃ front depth back, StandsAt (before.flatMap Part.lines) raw depth ∧
      out.toList = front ++ (List.replicate depth '\t' ++ trim raw) ++ back ∧
      (front = [] ∨ front.getLast? = some '\n') ∧ (back = [] ∨ back.head? = some '\n')
  /-- The formatter is given the blocks of the document, and no others. -/
  sources : submitted formatter (blocks document) = parts.filterMap Part.source?
  /-- At the end no block is open, and the indentation is zero. -/
  settled : ∃ around, (LayoutState.outside {}).after (Text.lines document.toList) = .outside around ∧
    around.indent = 0

/-! ## Open brackets -/

theorem openBehind_concat (before : List (List Char)) (raw : List Char) :
    openBehind (before ++ [raw]) = openBehind before + nesting (lineSides (nextLines .code before) raw) := by
  rw [openBehind, sidesFrom_append, nesting_append, openBehind]
  simp [sidesFrom]

theorem openBehind_concat_blank (before : List (List Char)) {raw : List Char} (hraw : trim raw = []) :
    openBehind (before ++ [raw]) = openBehind before := by
  rw [openBehind_concat, lineSides_allInert (trim_eq_nil_iff.mp hraw).allInert, nesting_nil, Int.add_zero]

/-- The lines of a document that the validator accepts, if their shapes tell their brackets. -/
structure Accepted (ls : List (List Char)) : Prop where
  shaped : ∀ line ∈ ls, ShapedLine line
  nonneg : ∀ u, u <+: ls → 0 ≤ openBehind u
  closed : openBehind ls = 0

/-- Behind shaped lines, the next line starts in code. -/
theorem nextLines_shaped {ls : List (List Char)} (h : ∀ line ∈ ls, ShapedLine line) :
    nextLines .code ls = .code := by
  induction ls with
  | nil => rfl
  | cons line ls ih =>
    obtain ⟨hline, hls⟩ := List.forall_mem_cons.mp h
    rw [nextLines, hline.next]
    exact ih hls

section

variable {before ls : List (List Char)} {raw : List Char} (h : Accepted (before ++ raw :: ls))

include h

theorem Accepted.openBehind_concat :
    0 ≤ openBehind (before ++ [raw]) ∧
      openBehind (before ++ [raw]) = openBehind before + nesting (lineSides .code raw) := by
  refine ⟨h.nonneg _ ⟨ls, by simp⟩, ?_⟩
  have hbefore : ∀ line ∈ before, ShapedLine line :=
    fun line hline => h.shaped line (List.mem_append_left _ hline)
  rw [TableCodegen.openBehind_concat, nextLines_shaped hbefore]

theorem Accepted.shapedLine : ShapedLine raw :=
  h.shaped raw (List.mem_append_right before List.mem_cons_self)

/-- What one line adds to a counter. -/
theorem Accepted.depthBehind_eq {depth : Nat} (hdepth : (depth : Int) = openBehind before) :
    (depthBehind depth raw : Int) = openBehind (before ++ [raw]) := by
  obtain ⟨hpos, heq⟩ := h.openBehind_concat
  rw [heq] at hpos ⊢
  unfold depthBehind
  rcases h.shapedLine.shape with ⟨hcloser, hopen, hsides⟩ | ⟨hcloser, hopen, hsides⟩ |
    ⟨hcloser, hopen, hsides⟩
  · simp only [hcloser, hopen, hsides, if_true, Bool.false_eq_true, if_false] at hpos ⊢
    omega
  · simp only [hcloser, hopen, hsides, Bool.false_eq_true, if_false]
    omega
  · simp only [hcloser, hopen, hsides, if_true, Bool.false_eq_true, if_false]
    omega

/-- Where a line outside blocks stands, and what it adds to the indentation. -/
theorem Accepted.standsAt {around : Surroundings} (hindent : (around.indent : Int) = openBehind before) :
    StandsAt before raw (around.depthOf (trim raw)) ∧
      ((around.behind (trim raw)).indent : Int) = openBehind (before ++ [raw]) := by
  obtain ⟨hpos, heq⟩ := h.openBehind_concat
  rw [heq] at hpos ⊢
  unfold StandsAt Surroundings.behind Surroundings.depthOf
  rw [codePart_trim, ← hindent] at *
  rcases h.shapedLine.shape with ⟨hcloser, hopen, hsides⟩ | ⟨hcloser, hopen, hsides⟩ |
    ⟨hcloser, hopen, hsides⟩
  · simp only [hcloser, hopen, hsides, if_true, Bool.false_eq_true, if_false] at hpos ⊢
    omega
  · simp only [hcloser, hopen, hsides, Bool.false_eq_true, if_false]
    omega
  · simp only [hcloser, hopen, hsides, if_true, Bool.false_eq_true, if_false]
    omega

end

/-! ## Blocks -/

theorem append_cons_eq (before : List (List Char)) (raw : List Char) (ls : List (List Char)) :
    before ++ raw :: ls = before ++ [raw] ++ ls := by simp

/-- The lines of a block end with the bracket that the first of them opens. -/
theorem Closes.openBehind_eq {depth : Nat} {ls : List (List Char)} (h : Closes depth ls)
    {before rest : List (List Char)} (hall : Accepted (before ++ (ls ++ rest)))
    (hdepth : (depth : Int) = openBehind before) :
    openBehind (before ++ ls) = 0 ∧
      ∀ front, front <+: ls → front ≠ [] → front ≠ ls → 0 < openBehind (before ++ front) := by
  induction h generalizing before with
  | @last depth line h =>
    have hline := hall.depthBehind_eq hdepth
    rw [h] at hline
    refine ⟨hline.symm, fun front hfront hne hproper => ?_⟩
    rcases List.prefix_cons_iff.mp hfront with rfl | ⟨t, rfl, ht⟩
    · exact absurd rfl hne
    · rw [List.prefix_nil.mp ht] at hproper
      exact absurd rfl hproper
  | @more depth line body h _ ih =>
    have hline := hall.depthBehind_eq hdepth
    rw [List.cons_append, append_cons_eq] at hall
    obtain ⟨htotal, hinside⟩ := ih hall hline
    refine ⟨by rwa [append_cons_eq], fun front hfront hne hproper => ?_⟩
    rcases List.prefix_cons_iff.mp hfront with rfl | ⟨t, rfl, ht⟩
    · exact absurd rfl hne
    · rw [append_cons_eq]
      by_cases hnil : t = []
      · rw [hnil, List.append_nil, ← hline]
        omega
      · exact hinside t ht hnil fun heq => hproper (by rw [heq])

/-- A block that is left open leaves brackets open. -/
theorem StaysOpen.openBehind_eq {depth final : Nat} {ls : List (List Char)} (h : StaysOpen depth ls final)
    {before : List (List Char)} (hall : Accepted (before ++ ls)) (hdepth : (depth : Int) = openBehind before) :
    (final : Int) = openBehind (before ++ ls) := by
  induction h generalizing before with
  | nil depth => rw [List.append_nil, hdepth]
  | cons _ _ ih =>
    have hline := hall.depthBehind_eq hdepth
    rw [append_cons_eq] at hall ⊢
    exact ih hall hline

theorem StaysOpen.ne_zero {depth final : Nat} {ls : List (List Char)} (h : StaysOpen depth ls final)
    (hne : ls ≠ [] ∨ depth ≠ 0) : final ≠ 0 := by
  induction h with
  | nil depth => exact hne.resolve_left (by simp)
  | cons h _ ih => exact ih (Or.inr h)

/-! ## Formatted pieces -/

/-- The texts of some pieces. -/
def Formatted (formatter : SourceFormatter) (pieces : List Piece) (texts : List (List Char)) : Prop :=
  List.Forall₂ (fun piece text => piece.text formatter = .ok text) pieces texts

theorem formatted_of_mapM {formatter : SourceFormatter} {pieces : List Piece} {texts : List (List Char)}
    (h : pieces.mapM (·.text formatter) = .ok texts) : Formatted formatter pieces texts := by
  induction pieces generalizing texts with
  | nil =>
    cases h
    exact .nil
  | cons piece pieces ih =>
    rw [List.mapM_cons] at h
    cases hpiece : piece.text formatter with
    | error failure =>
      rw [hpiece] at h
      cases h
    | ok text =>
      rw [hpiece] at h
      cases hrest : pieces.mapM (·.text formatter) with
      | error failure =>
        rw [hrest] at h
        cases h
      | ok rest =>
        rw [hrest] at h
        cases h
        exact .cons hpiece (ih hrest)

theorem Formatted.gap {formatter : SourceFormatter} {around : Surroundings} {pieces : List Piece}
    {texts : List (List Char)} (h : Formatted formatter (around.gap ++ pieces) texts) :
    ∃ gap rest, IsGap gap ∧ texts.flatten = gap ++ rest.flatten ∧ Formatted formatter pieces rest := by
  unfold Surroundings.gap at h
  cases hbrace : around.afterBrace with
  | true =>
    rw [hbrace, if_pos rfl, List.singleton_append] at h
    cases h with
    | cons hpiece hrest =>
      cases hpiece
      exact ⟨['\n'], _, Or.inr rfl, rfl, hrest⟩
  | false =>
    rw [hbrace, if_neg Bool.false_ne_true, List.nil_append] at h
    exact ⟨[], texts, Or.inl rfl, rfl, h⟩

theorem exists_of_formatBlock {formatter : SourceFormatter} {source text : List Char}
    (h : formatBlock formatter source = .ok text) :
    ∃ formatted, formatter (String.ofList source) = .ok formatted ∧
      text = withFinalFeed (withoutKeyword formatted.toList) := by
  unfold formatBlock at h
  cases hformat : formatter (String.ofList source) with
  | error failure =>
    rw [hformat] at h
    cases h
  | ok formatted =>
    rw [hformat] at h
    cases h
    exact ⟨formatted, rfl, rfl⟩

/-! ## The rules, with open brackets -/

theorem opens_iff_startsBlock {before : List (List Char)} {around : Surroundings} {raw : List Char}
    (hindent : (around.indent : Int) = openBehind before) : Opens around raw ↔ StartsBlock before raw := by
  unfold Opens
  rw [opensBlock, Bool.and_eq_true, isSome_dropHead?_iff]
  constructor
  · rintro ⟨hzero, hword, hopen⟩
    exact ⟨by rw [← hindent, hzero]; rfl, hword, hopen⟩
  · rintro ⟨hzero, hword, hopen⟩
    exact ⟨by omega, hword, hopen⟩

/-- The counters are the numbers of open brackets, and no bracket is open at the end. -/
theorem Laid.nested {around : Surroundings} {parts : List Part} {pieces : List Piece}
    {rows : List (List Char)} {final : LayoutState} (h : Laid around parts pieces rows final)
    {formatter : SourceFormatter} {texts : List (List Char)} (htexts : Formatted formatter pieces texts)
    {before : List (List Char)} (hall : Accepted (before ++ parts.flatMap Part.lines))
    (hindent : (around.indent : Int) = openBehind before) :
    Nested formatter before parts texts.flatten ∧ ∃ behind, final = .outside behind ∧ behind.indent = 0 := by
  induction h generalizing before texts with
  | done around =>
    cases htexts
    rw [List.flatMap_nil, List.append_nil] at hall
    have hclosed := hall.closed
    exact ⟨.done before, around, rfl, by omega⟩
  | again hraw _ _ ih =>
    rw [List.flatMap_cons, ← List.append_assoc] at hall
    rw [← openBehind_concat_blank before hraw] at hindent
    obtain ⟨hnested, hfinal⟩ := ih htexts hall hindent
    exact ⟨.blank hraw (Or.inl rfl) hnested, hfinal⟩
  | blank hraw _ _ ih =>
    rw [List.flatMap_cons, ← List.append_assoc] at hall
    rw [← openBehind_concat_blank before hraw] at hindent
    cases htexts with
    | cons hpiece htexts =>
      cases hpiece
      obtain ⟨hnested, hfinal⟩ := ih htexts hall hindent
      exact ⟨.blank hraw (Or.inr rfl) hnested, hfinal⟩
  | text hraw hopen _ ih =>
    obtain ⟨gap, rest, hgap, hflat, htexts⟩ := htexts.gap
    cases htexts with
    | cons hpiece htexts =>
      cases hpiece
      rw [opens_iff_startsBlock hindent] at hopen
      obtain ⟨hstands, hbehind⟩ := Accepted.standsAt hall hindent
      rw [List.flatMap_cons, ← List.append_assoc] at hall
      obtain ⟨hnested, hfinal⟩ := ih htexts hall hbehind
      refine ⟨?_, hfinal⟩
      rw [hflat]
      have := Nested.line hraw hopen hstands hgap hnested
      simpa using this
  | @block around first rest _ _ _ _ hopen hclose _ ih =>
    obtain ⟨gap, more, hgap, hflat, htexts⟩ := htexts.gap
    cases htexts with
    | cons hpiece htexts =>
      obtain ⟨formatted, hformat, rfl⟩ := exists_of_formatBlock hpiece
      have hstart := (opens_iff_startsBlock hindent).mp hopen
      obtain ⟨htotal, hinside⟩ := hclose.openBehind_eq hall hstart.outermost.symm
      rw [List.flatMap_cons, ← List.append_assoc] at hall
      have hbehind : (around.indent : Int) = openBehind (before ++ first :: rest) := by
        rw [htotal, hindent, hstart.outermost]
      obtain ⟨hnested, hfinal⟩ := ih htexts hall hbehind
      refine ⟨?_, hfinal⟩
      rw [hflat]
      refine Nested.block hstart (fun front hfront hproper => ?_) htotal hgap rfl hformat hnested
      exact hinside _ (List.cons_prefix_cons.mpr ⟨rfl, hfront⟩) (by simp) (by simpa using hproper)
  | unclosed hopen hstay =>
    have hstart := (opens_iff_startsBlock hindent).mp hopen
    rw [List.flatMap_singleton] at hall
    have hfinal := hstay.openBehind_eq hall hstart.outermost.symm
    have hclosed := hall.closed
    have hne := hstay.ne_zero (Or.inl (by simp))
    rw [Part.lines] at hclosed
    omega

/-! ## The text of a line -/

/-- The text of some parts ends with a line. -/
theorem Nested.getLast?_eq {formatter : SourceFormatter} {before : List (List Char)} {parts : List Part}
    {text : List Char} (h : Nested formatter before parts text) : text = [] ∨ text.getLast? = some '\n' := by
  have happend : ∀ u v : List Char, (v = [] ∨ v.getLast? = some '\n') → (u = [] ∨ u.getLast? = some '\n') →
      u ++ v = [] ∨ (u ++ v).getLast? = some '\n' := by
    rintro u v (rfl | hv) hu
    · rwa [List.append_nil]
    · right
      rw [List.getLast?_append, hv]
      rfl
  have hgap : ∀ {gap : List Char}, IsGap gap → gap = [] ∨ gap.getLast? = some '\n' := by
    rintro gap (rfl | rfl)
    · exact Or.inl rfl
    · exact Or.inr rfl
  have hfeed : ∀ cs, (withFinalFeed cs).getLast? = some '\n' := by
    intro cs
    unfold withFinalFeed endsWithChar
    split
    · rename_i hend
      exact of_decide_eq_true hend
    · simp
  induction h with
  | done before => exact Or.inl rfl
  | blank _ hg _ ih => exact happend _ _ ih (hgap hg)
  | @line before raw gap text parts depth _ _ _ hg _ ih =>
    refine happend _ _ (Or.inr ?_) (hgap hg)
    rcases ih with rfl | hlast
    · simp
    · rw [List.getLast?_append, List.getLast?_cons, hlast]
      rfl
  | block _ _ _ hg _ _ _ ih => exact happend _ _ (happend _ _ ih (Or.inr (hfeed _))) (hgap hg)

/-- A text without a mark comes from parts that leave no bracket open. -/
theorem Nested.openBehind_of_allBlank {formatter : SourceFormatter} {before : List (List Char)}
    {parts : List Part} {text : List Char} (h : Nested formatter before parts text) (hblank : AllBlank text) :
    openBehind (before ++ parts.flatMap Part.lines) = openBehind before := by
  induction h with
  | done before => rw [List.flatMap_nil, List.append_nil]
  | blank hraw _ _ ih =>
    rw [List.flatMap_cons, ← List.append_assoc]
    exact (ih fun c hc => hblank c (List.mem_append_right _ hc)).trans (openBehind_concat_blank _ hraw)
  | line hraw _ _ _ _ _ =>
    rw [← trim_trim] at hraw
    obtain ⟨c, hc, hmark⟩ := exists_of_trim_ne_nil hraw
    rw [hblank c (by simp [hc])] at hmark
    cases hmark
  | block hstart _ hclose _ _ _ _ ih =>
    rw [List.flatMap_cons, ← List.append_assoc]
    have htext := ih fun c hc => hblank c (List.mem_append_right _ (List.mem_append_right _ hc))
    exact htext.trans (hclose.trans hstart.outermost.symm)

/-- The text of a line that is not blank, between the texts of the parts around it. -/
theorem Nested.exists_line {formatter : SourceFormatter} {parts after : List Part} {raw : List Char}
    (hraw : trim raw ≠ []) {before : List (List Char)} {text : List Char}
    (h : Nested formatter before (parts ++ .line raw :: after) text) :
    ∃ front gap depth back, Nested formatter before parts front ∧ IsGap gap ∧
      StandsAt (before ++ parts.flatMap Part.lines) raw depth ∧
      text = front ++ gap ++ (List.replicate depth '\t' ++ trim raw ++ '\n' :: back) := by
  induction parts generalizing before text with
  | nil =>
    rw [List.flatMap_nil, List.append_nil]
    cases h with
    | blank hblank _ _ => exact absurd hblank hraw
    | line _ _ hdepth hgap _ => exact ⟨[], _, _, _, .done before, hgap, hdepth, rfl⟩
  | cons part parts ih =>
    rw [List.flatMap_cons, ← List.append_assoc]
    cases h with
    | blank hblank hgap hrest =>
      obtain ⟨front, gap, depth, back, hfront, hgap', hdepth, rfl⟩ := ih hrest
      exact ⟨_, gap, depth, back, .blank hblank hgap hfront, hgap', hdepth, by simp⟩
    | line hraw' hstart hstands hgap hrest =>
      obtain ⟨front, gap, depth, back, hfront, hgap', hdepth, rfl⟩ := ih hrest
      exact ⟨_, gap, depth, back, .line hraw' hstart hstands hgap hfront, hgap', hdepth, by simp⟩
    | block hstart hinside hclose hgap hsource hformat hrest =>
      obtain ⟨front, gap, depth, back, hfront, hgap', hdepth, rfl⟩ := ih hrest
      exact ⟨_, gap, depth, back, .block hstart hinside hclose hgap hsource hformat hfront, hgap', hdepth,
        by simp⟩

/-- What is left of lines without the blanks at their start ends with a line. -/
theorem getLast?_trimStart {u : List Char} (h : u = [] ∨ u.getLast? = some '\n') :
    trimStart u = [] ∨ (trimStart u).getLast? = some '\n' := by
  obtain ⟨lead, -, heq⟩ := exists_trimStart u
  by_cases hnil : trimStart u = []
  · exact Or.inl hnil
  · right
    rcases h with rfl | hlast
    · exact absurd rfl hnil
    · rwa [heq, List.getLast?_append_of_ne_nil lead hnil] at hlast

/-- What is left of a line feed and the text behind it starts with the line feed. -/
theorem head?_trimEnd_feed (back : List Char) :
    trimEnd ('\n' :: back) = [] ∨ (trimEnd ('\n' :: back)).head? = some '\n' := by
  obtain ⟨tail, htail⟩ := trimEnd_isPrefix ('\n' :: back)
  cases hleft : trimEnd ('\n' :: back) with
  | nil => exact Or.inl rfl
  | cons c left =>
    rw [hleft] at htail
    exact Or.inr (congrArg some (List.cons.inj htail).1)

/-- A line of the text with blanks before it is left as it is when the text is trimmed. -/
theorem trim_line {front indent line : List Char} (hline : trim line = line) (hne : line ≠ [])
    (hindent : indent = [] ∨ ∃ c ∈ front, isBlank c = false) (back : List Char) :
    trim (front ++ (indent ++ line ++ '\n' :: back)) =
      trimStart front ++ (indent ++ line) ++ trimEnd ('\n' :: back) := by
  obtain ⟨c, rest, rfl⟩ := List.exists_cons_of_ne_nil hne
  have hc : isBlank c = false := isBlank_head_trim (u := c :: rest) c (by rw [hline]; rfl)
  have hlast : ∀ d ∈ (c :: rest).getLast?, isBlank d = false := by
    intro d hd
    rw [← hline] at hd
    exact isBlank_getLast_trim d hd
  have hback : c :: trimEnd (rest ++ '\n' :: back) = c :: rest ++ trimEnd ('\n' :: back) := by
    rw [← trimEnd_cons hc, ← List.cons_append, trimEnd_append_of_getLast? hlast]
  have hfront : trimStart (front ++ indent) = trimStart front ++ indent := by
    rcases hindent with rfl | hmark
    · rw [List.append_nil, List.append_nil]
    · exact trimStart_append_of_exists hmark indent
  have hsplit : front ++ (indent ++ c :: rest ++ '\n' :: back) =
      (front ++ indent) ++ c :: (rest ++ '\n' :: back) := by simp
  rw [hsplit, trim_append_cons hc, hfront, hback]
  simp

/-! ## Submitted blocks -/

theorem Nested.exists_formatted {formatter : SourceFormatter} {before : List (List Char)}
    {parts : List Part} {text : List Char} (h : Nested formatter before parts text) :
    ∀ source ∈ parts.filterMap Part.source?, ∃ formatted, formatter source = .ok formatted := by
  induction h with
  | done before => exact List.forall_mem_nil _
  | blank _ _ _ ih => exact ih
  | line _ _ _ _ _ ih => exact ih
  | block _ _ _ _ hsource hformat _ ih =>
    rw [List.filterMap_cons_some hsource]
    exact List.forall_mem_cons.mpr ⟨⟨_, hformat⟩, ih⟩

/-! ## Documents -/

theorem accepted_lines {document : String} (hlines : ∀ line ∈ lines document.toList, ShapedLine line)
    (hvalid : RouteValidator.delimiter document = .ok ()) : Accepted (lines document.toList) := by
  rw [RouteValidator.delimiter_eq_ok_iff, map_side_delimiters] at hvalid
  refine ⟨hlines, fun u hu => ?_, hvalid.nesting_eq⟩
  obtain ⟨v, hv⟩ := hu
  refine hvalid.nesting_isPrefix (sidesFrom .code u) ?_
  rw [← hv, sidesFrom_append]
  exact List.prefix_append _ _

theorem exists_of_layOut {formatter : SourceFormatter} {document out : String}
    (h : layOut formatter document = .ok out) :
    ∃ texts, Formatted formatter (pieces document.toList) texts ∧ out = String.ofList (trim texts.flatten) := by
  unfold layOut at h
  cases htexts : (pieces document.toList).mapM (·.text formatter) with
  | error failure =>
    rw [htexts] at h
    cases h
  | ok texts =>
    rw [htexts] at h
    cases h
    exact ⟨texts, formatted_of_mapM htexts, rfl⟩

/-- The layout of an accepted document with shaped lines, from the rules for its parts. -/
theorem Laid.nestedLayout {document : String} {parts : List Part} {pieces : List Piece}
    {rows : List (List Char)} {final : LayoutState} (hlaid : Laid {} parts pieces rows final)
    (hparts : parts.flatMap Part.lines = lines document.toList)
    (hlines : ∀ line ∈ lines document.toList, ShapedLine line)
    (hvalid : RouteValidator.delimiter document = .ok ()) {formatter : SourceFormatter} {out : String}
    (hout : layOut formatter document = .ok out) : ∃ text, NestedLayout formatter document out parts text := by
  have hpieces : TableCodegen.pieces document.toList = pieces := by
    rw [TableCodegen.pieces, ← hparts, hlaid.piecesFrom_eq]
  obtain ⟨texts, htexts, rfl⟩ := exists_of_layOut hout
  rw [hpieces] at htexts
  have hall : Accepted ([] ++ parts.flatMap Part.lines) := by
    rw [List.nil_append, hparts]
    exact accepted_lines hlines hvalid
  obtain ⟨hnested, hfinal⟩ := hlaid.nested htexts hall rfl
  have hblocks : blocks document = parts.filterMap Part.source? := by
    rw [blocks_eq, hpieces, hlaid.sources_eq]
  rw [← hlaid.after_eq, hparts] at hfinal
  refine ⟨texts.flatten, hparts, hnested, rfl, ?_, ?_, hfinal⟩
  · rintro before raw after rfl hraw
    obtain ⟨front, gap, depth, back, hfront, hgap, hdepth, htext⟩ := hnested.exists_line hraw
    rw [List.nil_append] at hdepth
    have hindent : List.replicate depth '\t' = [] ∨ ∃ c ∈ front ++ gap, isBlank c = false := by
      rcases allBlank_or_exists (front ++ gap) with hall | hmark
      · -- before a text of blanks no bracket is open
        left
        have hblank : AllBlank front := fun c hc => hall c (List.mem_append_left _ hc)
        have hzero : openBehind (before.flatMap Part.lines) = 0 := hfront.openBehind_of_allBlank hblank
        unfold StandsAt at hdepth
        rw [hzero] at hdepth
        have hnone : depth = 0 := by
          split at hdepth <;> omega
        rw [hnone]
        rfl
      · exact Or.inr hmark
    refine ⟨trimStart (front ++ gap), depth, trimEnd ('\n' :: back), hdepth, ?_, ?_, ?_⟩
    · rw [String.toList_ofList, htext, trim_line (trim_trim raw) hraw hindent]
    · refine getLast?_trimStart ?_
      rcases hgap with rfl | rfl
      · rw [List.append_nil]
        exact hfront.getLast?_eq
      · exact Or.inr (List.getLast?_concat)
    · exact head?_trimEnd_feed back
  · rw [hblocks]
    exact submitted_eq_self hnested.exists_formatted

/-- **Nesting.** Let a document with structured lines be accepted, and let the formatter take all blocks.
Then the document is made of lines outside blocks and of blocks, which go from a line that starts a block
to the line that closes its bracket; the formatter is given the blocks; a line outside blocks that is not
blank is a line of the text, with as many tabs as brackets are open before it, or one less if it closes a
bracket and is nothing else; and at the end no block is open and the indentation is zero. -/
theorem layOut_nested (formatter : SourceFormatter) (document out : String)
    (hlines : LineStructured document.toList) (hvalid : RouteValidator.delimiter document = .ok ())
    (hout : layOut formatter document = .ok out) :
    ∃ parts text, NestedLayout formatter document out parts text := by
  obtain ⟨parts, rows, hparts, hlaid⟩ := exists_laid {} (lines document.toList)
  exact ⟨parts, hlaid.nestedLayout hparts (fun line hline => (hlines line hline).shaped) hvalid hout⟩

theorem noEscape_of_not_mem {line : List Char} (h : '\\' ∉ line) (state : ScanState) : NoEscape state line := by
  rintro before after rfl b
  exact absurd (List.mem_append_right before List.mem_cons_self) h

/-- A block, and a service with a bracket in a comment. -/
theorem service_nested :
    LineStructured "type A \x7b\nb int\n\x7d\ns \x7b // (\nget (A)\n\x7d".toList ∧
      RouteValidator.delimiter "type A \x7b\nb int\n\x7d\ns \x7b // (\nget (A)\n\x7d" = .ok () ∧
      layOut .verbatim "type A \x7b\nb int\n\x7d\ns \x7b // (\nget (A)\n\x7d" =
        .ok "type A \x7b\nb int\n\x7d\ns \x7b // (\n\tget (A)\n\x7d" ∧
      ∃ parts text, NestedLayout .verbatim "type A \x7b\nb int\n\x7d\ns \x7b // (\nget (A)\n\x7d"
        "type A \x7b\nb int\n\x7d\ns \x7b // (\n\tget (A)\n\x7d" parts text := by
  have hlines : LineStructured "type A \x7b\nb int\n\x7d\ns \x7b // (\nget (A)\n\x7d".toList := by
    have hcut : lines "type A \x7b\nb int\n\x7d\ns \x7b // (\nget (A)\n\x7d".toList =
        ["type A \x7b".toList, "b int".toList, "\x7d".toList, "s \x7b // (".toList,
          "get (A)".toList, "\x7d".toList] := by decide
    have hcloser : StructuredLine "\x7d".toList :=
      ⟨by decide, noEscape_of_not_mem (by decide) _, .closer (by decide)⟩
    have hpair : Balanced [(.round, true), (.round, false)] := .enclosed .round .nil
    unfold LineStructured
    rw [hcut]
    simp only [List.forall_mem_cons]
    refine ⟨⟨by decide, noEscape_of_not_mem (by decide) _, ?_⟩,
      ⟨by decide, noEscape_of_not_mem (by decide) _, .balanced .nil⟩, hcloser,
      ⟨by decide, noEscape_of_not_mem (by decide) _, ?_⟩,
      ⟨by decide, noEscape_of_not_mem (by decide) _, .balanced hpair⟩, hcloser, List.forall_mem_nil _⟩
    · have hcode : codePart "type A \x7b".toList = "type A ".toList ++ ['\x7b'] := by decide
      rw [hcode]
      exact .opener (b := .curly) rfl .nil
    · have hcode : codePart "s \x7b // (".toList = "s ".toList ++ ['\x7b'] := by decide
      rw [hcode]
      exact .opener (b := .curly) rfl .nil
  have hvalid : RouteValidator.delimiter "type A \x7b\nb int\n\x7d\ns \x7b // (\nget (A)\n\x7d" = .ok () := by
    decide
  have hout : layOut .verbatim "type A \x7b\nb int\n\x7d\ns \x7b // (\nget (A)\n\x7d" =
      .ok "type A \x7b\nb int\n\x7d\ns \x7b // (\n\tget (A)\n\x7d" := by
    have hpieces : pieces "type A \x7b\nb int\n\x7d\ns \x7b // (\nget (A)\n\x7d".toList =
        [.block "type A struct \x7b\nb int\n\x7d\n".toList, .line 0 "s \x7b // (".toList,
          .line 1 "get (A)".toList, .line 0 "\x7d".toList] := by decide
    have hblock : withoutKeyword "type A struct \x7b\nb int\n\x7d\n".toList =
        "type A \x7b\nb int\n\x7d\n".toList := by cbv
    rw [layOut_verbatim, hpieces]
    simp only [List.flatMap_cons, Piece.settledText, hblock]
    decide
  exact ⟨hlines, hvalid, hout, layOut_nested _ _ _ hlines hvalid hout⟩

end TableCodegen
