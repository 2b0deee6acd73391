import TableCodegen.Proofs.Layout.LineSides
import TableCodegen.Proofs.Layout.Outline

/-!
# The layout keeps the delimiters

The layout trims and indents lines, adds and drops blank lines, puts a keyword in and takes it out, and
writes capitals. None of this moves a bracket into a string, a tag or a comment, or out of one, as long as
no empty group is dropped.

Results:

* `Alike.cons`, `alike_replaceCons`, `alike_withKeyword`, `alike_capitalized`: changes within a line, which
  a reader of delimiters does not see from any state.
* `Laid.sameLines`: the lines of the text and the lines of the document are read alike.
* `layOut_verbatim_delimiters`: the delimiters of a document and of its layout are the same.
-/

namespace TableCodegen

open TableCodegen.Text

/-! ## Changes within a line -/

/-- No reader of delimiters can tell the two texts apart, whatever stands before them on the line. -/
structure Alike (u v : List Char) : Prop where
  sides : ∀ state, lineSides state u = lineSides state v
  next : ∀ state, nextLine state u = nextLine state v
  /-- A slash before the one starts a comment iff a slash before the other does. -/
  slash : u.head? = some '/' ↔ v.head? = some '/'

theorem Alike.refl (u : List Char) : Alike u u := ⟨fun _ => rfl, fun _ => rfl, Iff.rfl⟩

theorem Alike.symm {u v : List Char} (h : Alike u v) : Alike v u :=
  ⟨fun state => (h.sides state).symm, fun state => (h.next state).symm, h.slash.symm⟩

theorem Alike.trans {u v w : List Char} (huv : Alike u v) (hvw : Alike v w) : Alike u w :=
  ⟨fun state => (huv.sides state).trans (hvw.sides state),
    fun state => (huv.next state).trans (hvw.next state), huv.slash.trans hvw.slash⟩

theorem Alike.cons {u v : List Char} (h : Alike u v) (c : Char) : Alike (c :: u) (c :: v) := by
  have hstart : ∀ state : ScanState, state.startsComment c u = state.startsComment c v := by
    intro state
    unfold ScanState.startsComment
    rw [decide_eq_decide.mpr h.slash]
  refine ⟨fun state => ?_, fun state => ?_, Iff.rfl⟩
  · rw [lineSides, lineSides, hstart, h.sides]
  · unfold nextLine
    rw [lineEnd, lineEnd, hstart]
    split
    · rfl
    · exact h.next _

theorem Alike.append {u v : List Char} (h : Alike u v) (w : List Char) : Alike (w ++ u) (w ++ v) := by
  induction w with
  | nil => exact h
  | cons c w ih => exact ih.cons c

theorem lineSides_calm_append {w : List Char} (h : AllInert w) (state : ScanState) (u : List Char) :
    lineSides state.calm (w ++ u) = lineSides state.calm u := by
  induction w with
  | nil => rfl
  | cons c w ih =>
    obtain ⟨hc, hw⟩ := List.forall_mem_cons.mp h
    rw [List.cons_append, lineSides_inert_cons hc, ScanState.calm_calm, ih hw]

theorem nextLine_calm_append {w : List Char} (h : AllInert w) (state : ScanState) (u : List Char) :
    nextLine state.calm (w ++ u) = nextLine state.calm u := by
  induction w with
  | nil => rfl
  | cons c w ih =>
    obtain ⟨hc, hw⟩ := List.forall_mem_cons.mp h
    have hstep := lineEnd_inert_cons hc state.calm (w ++ u)
    rw [List.cons_append, nextLine, hstep, ScanState.calm_calm]
    exact ih hw

/-- One word can stand in the place of another. -/
theorem Alike.word {u v : List Char} (h : Alike u v) {c d : Char} {w x : List Char}
    (hw : AllInert (c :: w)) (hx : AllInert (d :: x)) : Alike (c :: w ++ u) (d :: x ++ v) := by
  obtain ⟨hc, hw⟩ := List.forall_mem_cons.mp hw
  obtain ⟨hd, hx⟩ := List.forall_mem_cons.mp hx
  refine ⟨fun state => ?_, fun state => ?_, ?_⟩
  · rw [List.cons_append, List.cons_append, lineSides_inert_cons hc, lineSides_inert_cons hd,
      lineSides_calm_append hw, lineSides_calm_append hx, h.sides]
  · have hfirst := lineEnd_inert_cons hc state (w ++ u)
    have hsecond := lineEnd_inert_cons hd state (x ++ v)
    rw [List.cons_append, List.cons_append, nextLine, nextLine, hfirst, hsecond]
    exact (nextLine_calm_append hw state u).trans
      ((h.next state.calm).trans (nextLine_calm_append hx state v).symm)
  · simp [hc.slash, hd.slash]

/-- A word can come before a brace. -/
theorem alike_before_brace {w : List Char} (h : AllInert w) (post : List Char) :
    Alike (w ++ '\x7b' :: post) ('\x7b' :: post) := by
  -- the brace ends the force of a backslash as the word does
  have hcalm : ∀ state : ScanState, state.calm.next '\x7b' = state.next '\x7b' := by
    intro state
    cases state <;> simp [ScanState.calm, ScanState.next]
  have hside : ∀ state : ScanState, sideAt? state.calm '\x7b' = sideAt? state '\x7b' := by
    intro state
    cases state <;> rfl
  have hstart : ∀ state : ScanState, state.startsComment '\x7b' post = false := by
    intro state
    simp [ScanState.startsComment]
  have hsides : ∀ state, lineSides state.calm ('\x7b' :: post) = lineSides state ('\x7b' :: post) := by
    intro state
    rw [lineSides, lineSides, hstart, hstart, hside, hcalm]
  have hnext : ∀ state, nextLine state.calm ('\x7b' :: post) = nextLine state ('\x7b' :: post) := by
    intro state
    unfold nextLine
    rw [lineEnd, lineEnd, hstart, hstart, hcalm, if_neg Bool.false_ne_true, if_neg Bool.false_ne_true]
  cases w with
  | nil => exact Alike.refl _
  | cons c w =>
    obtain ⟨hc, hw⟩ := List.forall_mem_cons.mp h
    refine ⟨fun state => ?_, fun state => ?_, ?_⟩
    · rw [List.cons_append, lineSides_inert_cons hc, lineSides_calm_append hw, hsides]
    · have hstep := lineEnd_inert_cons hc state (w ++ '\x7b' :: post)
      rw [List.cons_append, nextLine, hstep]
      exact (nextLine_calm_append hw state _).trans (hnext state)
    · simp [hc.slash]

theorem alike_withKeyword (line : List Char) : Alike (withKeyword line) line := by
  rcases withKeyword_cases line with h | ⟨name, post, -, rfl, h⟩
  · rw [h]
    exact Alike.refl line
  · obtain ⟨tail, htail, hname⟩ := exists_trimEnd name
    have hline : name ++ '\x7b' :: post = trimEnd name ++ (tail ++ '\x7b' :: post) := by
      rw [← List.append_assoc, ← hname]
    rw [h, hline]
    exact ((alike_before_brace allInert_keyword post).trans
      (alike_before_brace htail.allInert post).symm).append _

theorem alike_capitalized (line : List Char) : Alike (capitalized line) line := by
  cases line with
  | nil => exact Alike.refl []
  | cons c rest =>
    change Alike (Unicode.upper c ++ rest) ([c] ++ rest)
    by_cases h : Unicode.upper c = [c]
    · rw [h]
      exact Alike.refl _
    · obtain ⟨hsmall, hcapital⟩ := allInert_upper h
      obtain ⟨d, capital, heq⟩ := List.exists_cons_of_ne_nil (Unicode.upper_ne_nil c)
      rw [heq] at hcapital ⊢
      exact (Alike.refl rest).word hcapital hsmall

/-- If one occurrence can be replaced, all can. -/
theorem alike_replaceCons {p : Char} {q new : List Char}
    (h : ∀ u v, Alike u v → Alike (new ++ u) (p :: q ++ v)) (cs : List Char) :
    Alike (replaceCons p q new cs) cs := by
  induction cs using replaceCons_induction (p := p) (q := q) with
  | nil =>
    rw [replaceCons_nil]
    exact Alike.refl []
  | occurrence rest ih =>
    rw [replaceCons_occurrence]
    exact h _ _ ih
  | other c rest hc ih =>
    rw [replaceCons_other hc]
    exact ih.cons c

/-- The keyword without its braces or blanks behind it. -/
theorem alike_replace_keyword (cs : List Char) :
    Alike (replace (spacedKeyword ++ [' ']) [' '] cs) cs := by
  refine alike_replaceCons (fun u v h => ?_) cs
  exact h.word allInert_space allInert_keyword

theorem alike_replace_body (cs : List Char) :
    Alike (replace (spacedKeyword ++ ['\x7b', '\x7d']) [' ', '\x7b', '\x7d'] cs) cs := by
  refine alike_replaceCons (fun u v h => ?_) cs
  exact (h.append ['\x7b', '\x7d']).word allInert_space allInert_spacedKeyword

/-! ## Groups -/

/-- The text of a group that is empty without its keyword. -/
def keywordGroup : List Char := "type struct ()".toList

/-- No empty group is dropped from the line, and none comes up when the keyword is taken out. -/
structure Ungrouped (cs : List Char) : Prop where
  group : ¬ emptyGroup <:+: cs
  keywordGroup : ¬ keywordGroup <:+: cs

theorem Ungrouped.of_infix {u v : List Char} (h : Ungrouped v) (huv : u <:+: v) : Ungrouped u :=
  ⟨fun hu => h.group (hu.trans huv), fun hu => h.keywordGroup (hu.trans huv)⟩

/-- An empty group in a text behind a replacement that puts a blank was there before, or a part of it
comes from the replacement. -/
theorem emptyGroup_of_replaceCons {p : Char} {q new cs : List Char} (hnew : 't' ∉ ' ' :: new)
    (h : emptyGroup <:+: replaceCons p q (' ' :: new) cs) :
    emptyGroup <:+: cs ∨ ∃ after, "type".toList ++ (p :: q) ++ after <:+: cs ∧
      "()".toList <+: new ++ replaceCons p q (' ' :: new) after := by
  obtain ⟨u, v, rfl, hv⟩ := exists_of_infix_replaceCons hnew h
  have htype : "type".toList <+: replaceCons p q (' ' :: new) v :=
    List.IsPrefix.trans (by decide : "type".toList <+: emptyGroup) hv
  obtain ⟨rest, rfl, heq⟩ := exists_of_prefix_replaceCons (by decide) htype
  have hrest : ' ' :: "()".toList <+: replaceCons p q (' ' :: new) rest := by
    have hv' : "type".toList ++ ' ' :: "()".toList <+:
      "type".toList ++ replaceCons p q (' ' :: new) rest := by rwa [← heq]
    exact (List.prefix_append_right_inj _).mp hv'
  cases rest with
  | nil =>
    rw [replaceCons_nil] at hrest
    simp at hrest
  | cons d rest =>
    by_cases hd : p :: q <+: d :: rest
    · right
      obtain ⟨after, hafter⟩ := hd
      rw [← hafter, replaceCons_occurrence, List.cons_append, List.cons_prefix_cons] at hrest
      refine ⟨after, ⟨u, [], ?_⟩, hrest.2⟩
      rw [← hafter]
      simp
    · left
      rw [replaceCons_other hd, List.cons_prefix_cons] at hrest
      obtain ⟨after, rfl, -⟩ := exists_of_prefix_replaceCons (by decide) hrest.2
      have hgroup : emptyGroup = "type".toList ++ ' ' :: "()".toList := by decide
      refine ⟨u, after, ?_⟩
      rw [← hrest.1, hgroup, List.append_assoc, List.append_assoc, List.cons_append]

theorem Ungrouped.replace_keyword {cs : List Char} (h : Ungrouped cs) :
    ¬ emptyGroup <:+: replace (spacedKeyword ++ [' ']) [' '] cs := by
  intro hgroup
  have hcons : emptyGroup <:+: replaceCons ' ' (keyword ++ [' ']) [' '] cs := hgroup
  rcases emptyGroup_of_replaceCons (by decide) hcons with hcs | ⟨after, hcs, hafter⟩
  · exact h.group hcs
  · rw [List.nil_append] at hafter
    obtain ⟨rest, rfl, -⟩ := exists_of_prefix_replaceCons (by decide) hafter
    have hsplit : TableCodegen.keywordGroup =
        "type".toList ++ ' ' :: (keyword ++ [' ']) ++ "()".toList := by decide
    rw [← List.append_assoc, ← hsplit] at hcs
    exact h.keywordGroup ((List.prefix_append _ rest).isInfix.trans hcs)

theorem not_infix_replace_body {cs : List Char} (h : ¬ emptyGroup <:+: cs) :
    ¬ emptyGroup <:+: replace (spacedKeyword ++ ['\x7b', '\x7d']) [' ', '\x7b', '\x7d'] cs := by
  intro hgroup
  have hcons : emptyGroup <:+: replaceCons ' ' (keyword ++ ['\x7b', '\x7d']) [' ', '\x7b', '\x7d'] cs := hgroup
  rcases emptyGroup_of_replaceCons (by decide) hcons with hcs | ⟨after, -, hafter⟩
  · exact h hcs
  · simp at hafter

theorem not_infix_withKeyword {w line : List Char} (hbrace : '\x7b' ∉ w ++ [')'])
    (h : ¬ w ++ [')'] <:+: line) : ¬ w ++ [')'] <:+: withKeyword line := by
  rcases withKeyword_cases line with heq | ⟨name, post, -, rfl, heq⟩
  · rwa [heq]
  · intro hinfix
    rw [heq, ← List.append_assoc] at hinfix
    rcases infix_append_cons hinfix with hname | hpost | ⟨before, after, hw, -, -⟩
    · have hfront := infix_of_infix_append_left hname (by decide)
      exact h (hfront.trans ((trimEnd_isPrefix name).isInfix.trans (List.prefix_append _ _).isInfix))
    · exact h (hpost.trans ((List.suffix_cons _ _).trans (List.suffix_append _ _)).isInfix)
    · apply hbrace
      rw [hw]
      simp

theorem Ungrouped.blockLine {line : List Char} (h : Ungrouped line) : Ungrouped (blockLine line) := by
  unfold TableCodegen.blockLine
  dsimp only
  split
  · exact ⟨not_infix_withKeyword (w := "type (".toList) (by decide) h.group,
      not_infix_withKeyword (w := "type struct (".toList) (by decide) h.keywordGroup⟩
  · split
    · have htrim := h.of_infix (trim_isInfix line)
      exact ⟨not_infix_capitalized (by decide) (by decide) htrim.group,
        not_infix_capitalized (by decide) (by decide) htrim.keywordGroup⟩
    · exact h

theorem alike_settledLine {line : List Char} (h : Ungrouped line) :
    Alike (settledLine line) (blockLine line) := by
  have hgroup := not_infix_replace_body h.blockLine.replace_keyword
  rw [settledLine, withoutKeyword_eq, replace_of_not_infix hgroup]
  exact (alike_replace_body _).trans (alike_replace_keyword _)

/-! ## Lines -/

/-- The lines are read alike by who comes to them at the start of a line. -/
def SameLines (u v : List (List Char)) : Prop :=
  ∀ state, IsLineStart state → sidesFrom state u = sidesFrom state v ∧ nextLines state u = nextLines state v

theorem SameLines.refl (u : List (List Char)) : SameLines u u := fun _ _ => ⟨rfl, rfl⟩

theorem isLineStart_nextLines {state : ScanState} (h : IsLineStart state) (ls : List (List Char)) :
    IsLineStart (nextLines state ls) := by
  induction ls generalizing state with
  | nil => exact h
  | cons line ls ih => exact ih (isLineStart_nextLine state line)

theorem SameLines.append {u v x y : List (List Char)} (huv : SameLines u v) (hxy : SameLines x y) :
    SameLines (u ++ x) (v ++ y) := by
  intro state h
  obtain ⟨hsides, hnext⟩ := huv state h
  obtain ⟨hsides', hnext'⟩ := hxy (nextLines state v) (isLineStart_nextLines h v)
  rw [sidesFrom_append, sidesFrom_append, nextLines_append, nextLines_append, hsides, hnext]
  exact ⟨by rw [hsides'], hnext'⟩

theorem sameLines_line {u v : List Char}
    (h : ∀ state, IsLineStart state → lineSides state u = lineSides state v ∧ nextLine state u = nextLine state v) :
    SameLines [u] [v] := by
  intro state hstate
  obtain ⟨hsides, hnext⟩ := h state hstate
  refine ⟨?_, hnext⟩
  rw [sidesFrom, sidesFrom, hsides]
  rfl

theorem Alike.sameLines {u v : List Char} (h : Alike u v) : SameLines [u] [v] :=
  sameLines_line fun state _ => ⟨h.sides state, h.next state⟩

theorem SameLines.trans {u v w : List (List Char)} (huv : SameLines u v) (hvw : SameLines v w) :
    SameLines u w :=
  fun state h => ⟨(huv state h).1.trans (hvw state h).1, (huv state h).2.trans (hvw state h).2⟩

theorem SameLines.symm {u v : List (List Char)} (h : SameLines u v) : SameLines v u :=
  fun state hstate => ⟨(h state hstate).1.symm, (h state hstate).2.symm⟩

theorem sameLines_blank {lead tail : List Char} (hlead : AllBlank lead) (htail : AllBlank tail)
    (line : List Char) : SameLines [lead ++ line ++ tail] [line] := by
  refine sameLines_line fun state h => ⟨?_, ?_⟩
  · rw [lineSides_append_blank htail, lineSides_blank_append hlead h]
  · rw [nextLine_append_blank htail, nextLine_blank_append hlead h]

theorem sameLines_trim (line : List Char) : SameLines [trim line] [line] := by
  obtain ⟨lead, tail, hlead, htail, heq⟩ := exists_trim line
  have := (sameLines_blank hlead htail (trim line)).symm
  rwa [← heq] at this

/-- A blank line can come and go. -/
theorem sameLines_nil_line {line : List Char} (h : AllBlank line) : SameLines [] [line] := by
  intro state hstate
  refine ⟨?_, ?_⟩
  · change [] = lineSides state line ++ []
    rw [lineSides_allInert h.allInert, List.append_nil]
  · change state = nextLine state line
    rw [nextLine_allInert h.allInert, hstate]

theorem sameLines_gap (around : Surroundings) : SameLines (around.gap.map fun _ => []) [] := by
  unfold Surroundings.gap
  cases around.afterBrace with
  | true => exact (sameLines_nil_line AllBlank.nil).symm
  | false => exact SameLines.refl []

theorem sameLines_settledLine {line : List Char} (h : Ungrouped line) :
    SameLines [settledLine line] [line] := by
  refine (alike_settledLine h).sameLines.trans ?_
  unfold blockLine
  dsimp only
  split
  · exact (alike_withKeyword line).sameLines
  · split
    · exact (alike_capitalized (trim line)).sameLines.trans (sameLines_trim line)
    · exact SameLines.refl [line]

theorem sameLines_map_settledLine {ls : List (List Char)} (h : ∀ line ∈ ls, Ungrouped line) :
    SameLines (ls.map settledLine) ls := by
  induction ls with
  | nil => exact SameLines.refl []
  | cons line ls ih =>
    obtain ⟨hline, hls⟩ := List.forall_mem_cons.mp h
    exact (sameLines_settledLine hline).append (ih hls)

theorem sameLines_block {first : List Char} {rest : List (List Char)}
    (h : ∀ line ∈ first :: rest, Ungrouped line) :
    SameLines ((blockLines first rest).map settledLine) (first :: rest) := by
  obtain ⟨hfirst, hrest⟩ := List.forall_mem_cons.mp h
  have htrim : Ungrouped (trim first) := hfirst.of_infix (trim_isInfix first)
  exact ((sameLines_settledLine htrim).trans (sameLines_trim first)).append
    (sameLines_map_settledLine hrest)

/-- The lines of the text and those of the document are read alike. -/
theorem Laid.sameLines {around : Surroundings} {parts : List Part} {pieces : List Piece}
    {rows : List (List Char)} {final : LayoutState} (h : Laid around parts pieces rows final)
    (hlines : ∀ line ∈ parts.flatMap Part.lines, Ungrouped line) :
    SameLines rows (parts.flatMap Part.lines) := by
  induction h with
  | done around => exact SameLines.refl []
  | again hraw _ _ ih =>
    exact (sameLines_nil_line (trim_eq_nil_iff.mp hraw)).append
      (ih fun line hline => hlines line (List.mem_append_right _ hline))
  | blank hraw _ _ ih =>
    have hblank := (sameLines_nil_line AllBlank.nil).symm.trans
      (sameLines_nil_line (trim_eq_nil_iff.mp hraw))
    exact hblank.append (ih fun line hline => hlines line (List.mem_append_right _ hline))
  | @text around raw _ _ _ _ _ _ _ ih =>
    have hline : SameLines [List.replicate (around.depthOf (trim raw)) '\t' ++ trim raw] [raw] := by
      have := sameLines_blank (allBlank_replicate_tab (around.depthOf (trim raw))) AllBlank.nil (trim raw)
      rw [List.append_nil] at this
      exact this.trans (sameLines_trim raw)
    exact (sameLines_gap around).append
      (hline.append (ih fun line hline => hlines line (List.mem_append_right _ hline)))
  | @block around _ _ _ _ _ _ _ _ _ ih =>
    have hblock := (sameLines_gap around).append
      (sameLines_block fun line hline => hlines line (List.mem_append_left _ hline))
    exact hblock.append (ih fun line hline => hlines line (List.mem_append_right _ hline))
  | @unclosed around first rest _ _ _ =>
    have hblock := (sameLines_gap around).append
      (sameLines_block fun line hline => hlines line (List.mem_append_left _ hline))
    simpa [Part.lines] using hblock

/-! ## The layout -/

theorem delimiters_trim_blockText {rows : List (List Char)} (h : ∀ row ∈ rows, '\n' ∉ row) :
    (delimiters (trim (blockText rows))).map Delimiter.side = sidesFrom .code rows := by
  rw [map_side_delimiters_eq_textSides, textSides_trim, textSides_blockText h]

/-- **Delimiters.** When the formatter changes nothing, a document without empty groups, with or without
the keyword in them, has the same delimiters as its layout, and the validator gives them the same
verdict. -/
theorem layOut_verbatim_delimiters (document : String) (hgroup : ¬ emptyGroup <:+: document.toList)
    (hkeyword : ¬ keywordGroup <:+: document.toList) :
    ∃ out, layOut .verbatim document = .ok out ∧
      (delimiters out.toList).map Delimiter.side =
        (delimiters document.toList).map Delimiter.side ∧
      (RouteValidator.delimiter out = .ok () ↔ RouteValidator.delimiter document = .ok ()) := by
  obtain ⟨parts, rows, hparts, hlaid⟩ := exists_laid {} (lines document.toList)
  have hlines : ∀ line ∈ parts.flatMap Part.lines, Ungrouped line := by
    intro line hline
    rw [hparts] at hline
    exact Ungrouped.of_infix ⟨hgroup, hkeyword⟩ (infix_of_mem_lines hline)
  have hrows : ∀ row ∈ rows, '\n' ∉ row := by
    refine hlaid.not_mem_rows (Or.inl rfl) fun line hline => ?_
    rw [hparts] at hline
    exact not_mem_of_mem_lines hline
  have htext : (pieces document.toList).flatMap Piece.settledText = blockText rows := hlaid.text_eq
  have hsides : (delimiters (trim (blockText rows))).map Delimiter.side =
      (delimiters document.toList).map Delimiter.side := by
    rw [delimiters_trim_blockText hrows, map_side_delimiters, ← hparts]
    exact (hlaid.sameLines hlines .code isLineStart_code).1
  refine ⟨String.ofList (trim (blockText rows)), ?_, ?_, ?_⟩
  · rw [layOut_verbatim, htext]
  · rwa [String.toList_ofList]
  · rw [RouteValidator.delimiter_eq_ok_iff, RouteValidator.delimiter_eq_ok_iff, String.toList_ofList, hsides]

/-- A block with brackets in its tag and its comment, which is left open. -/
theorem open_block_delimiters :
    ¬ emptyGroup <:+: "type (\n a \x7b\nb int \x60(\x60 // \x7d\n\x7d\n".toList ∧
      ¬ keywordGroup <:+: "type (\n a \x7b\nb int \x60(\x60 // \x7d\n\x7d\n".toList ∧
      ∃ out, layOut .verbatim "type (\n a \x7b\nb int \x60(\x60 // \x7d\n\x7d\n" = .ok out ∧
        (delimiters out.toList).map Delimiter.side =
          (delimiters "type (\n a \x7b\nb int \x60(\x60 // \x7d\n\x7d\n".toList).map Delimiter.side ∧
        (RouteValidator.delimiter out = .ok () ↔
          RouteValidator.delimiter "type (\n a \x7b\nb int \x60(\x60 // \x7d\n\x7d\n" = .ok ()) := by
  have hgroup : ¬ emptyGroup <:+: "type (\n a \x7b\nb int \x60(\x60 // \x7d\n\x7d\n".toList :=
    contains_eq_false_iff.mp (by decide)
  have hkeyword : ¬ keywordGroup <:+: "type (\n a \x7b\nb int \x60(\x60 // \x7d\n\x7d\n".toList :=
    contains_eq_false_iff.mp (by decide)
  exact ⟨hgroup, hkeyword, layOut_verbatim_delimiters _ hgroup hkeyword⟩

/-- The condition on the keyword is needed: a group that is empty without its keyword is dropped. -/
theorem keyword_group_dropped :
    ¬ emptyGroup <:+: "type (\ntype struct ()\n)".toList ∧
      layOut .verbatim "type (\ntype struct ()\n)" = .ok "type (\n\n)" ∧
      (delimiters "type (\n\n)".toList).map Delimiter.side ≠
        (delimiters "type (\ntype struct ()\n)".toList).map Delimiter.side := by
  have hpieces : pieces "type (\ntype struct ()\n)".toList =
      [.block "type (\ntype struct ()\n)\n".toList] := by decide
  have hblock : withoutKeyword "type (\ntype struct ()\n)\n".toList = "type (\n\n)\n".toList := by cbv
  refine ⟨contains_eq_false_iff.mp (by decide), ?_, by decide⟩
  rw [layOut_verbatim, hpieces, List.flatMap_singleton, Piece.settledText, hblock]
  decide

end TableCodegen
