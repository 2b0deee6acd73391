import TableCodegen.Proofs.Layout.Stability
import TableCodegen.Proofs.Layout.TextEnds

/-!
# The layout of a layout

A text that has been laid out is laid out already: when the formatter changes nothing, its layout is the
text itself. Line by line, the second run goes through the same states as the first, but for its memory of
closing braces: a blank line that the first run put in is there for the second run to read.

Results:

* `Laid.exists_settled`: the lines of the text are the lines that the layout makes of them.
* `layOut_verbatim_layOut`: the layout of a document is its own layout, if no line of the document that
  opens a group carries a tag.
-/

namespace TableCodegen

open TableCodegen.Text

/-! ## Two runs -/

/-- The surroundings in the second run, as against those in the first. -/
structure Follows (around next : Surroundings) : Prop where
  indent : next.indent = around.indent
  blank : next.afterBlank = around.afterBlank
  brace : next.afterBrace = true → around.afterBrace = true
  apart : around.afterBrace = true → around.afterBlank = false

/-- The gap before a line is made in the first run, and read in the second. -/
theorem Follows.exists_gap {around next : Surroundings} (h : Follows around next) :
    ∃ mid : Surroundings, mid.indent = around.indent ∧ mid.gap = [] ∧
      ∀ {parts : List Part} {pieces : List Piece} {rows : List (List Char)} {final : LayoutState},
        Laid mid parts pieces rows final →
        ∃ parts' pieces', parts'.flatMap Part.lines =
            around.gap.map (fun _ => []) ++ parts.flatMap Part.lines ∧
          Laid next parts' pieces' (around.gap.map (fun _ => []) ++ rows) final := by
  cases hbrace : around.afterBrace with
  | true =>
    have hgap : around.gap.map (fun _ => ([] : List Char)) = [[]] := by
      rw [Surroundings.gap, hbrace]
      rfl
    have hblank : next.afterBlank = false := by rw [h.blank, h.apart hbrace]
    refine ⟨next.behindBlank, h.indent, rfl, fun {parts pieces rows final} hlaid => ?_⟩
    rw [hgap]
    exact ⟨.line [] :: parts, .blank :: pieces, rfl, .blank rfl hblank hlaid⟩
  | false =>
    have hgap : around.gap.map (fun _ => ([] : List Char)) = [] := by
      rw [Surroundings.gap, hbrace]
      rfl
    have hnone : next.gap = [] := by
      rw [Surroundings.gap, if_neg]
      intro hnext
      rw [h.brace hnext] at hbrace
      cases hbrace
    refine ⟨next, h.indent, hnone, fun {parts pieces rows final} hlaid => ?_⟩
    rw [hgap]
    exact ⟨parts, pieces, rfl, hlaid⟩

theorem Follows.behindBlank {around next : Surroundings} (h : Follows around next) :
    Follows around.behindBlank next.behindBlank :=
  ⟨h.indent, rfl, fun hbrace => absurd hbrace Bool.false_ne_true, fun hbrace => absurd hbrace Bool.false_ne_true⟩

theorem depthOf_congr {around mid : Surroundings} (hindent : mid.indent = around.indent) (line : List Char) :
    mid.depthOf line = around.depthOf line := by
  unfold Surroundings.depthOf
  rw [hindent]

theorem follows_behind {around mid : Surroundings} (hindent : mid.indent = around.indent) (line : List Char) :
    Follows (around.behind line) (mid.behind line) := by
  refine ⟨?_, rfl, id, fun _ => rfl⟩
  rw [Surroundings.behind, Surroundings.behind, depthOf_congr hindent]

/-- Behind a block the second run remembers no brace if it made no gap before the block. -/
theorem follows_behindBlock {around mid : Surroundings} (hindent : mid.indent = around.indent)
    (hgap : mid.gap = []) : Follows around.behindBlock mid.behindBlock := by
  refine ⟨hindent, rfl, fun hbrace => ?_, fun _ => rfl⟩
  change mid.afterBrace = true at hbrace
  rw [Surroundings.gap, if_pos hbrace] at hgap
  cases hgap

/-! ## Blocks -/

/-- The parts of a document hold no keyword and no empty group, and no tag where a group opens. -/
structure Steady (parts : List Part) : Prop where
  plain : ∀ line ∈ parts.flatMap Part.lines, Plain line
  group : ∀ first rest, Part.block first rest ∈ parts → ¬ TaggedGroup first

theorem Steady.tail {part : Part} {parts : List Part} (h : Steady (part :: parts)) : Steady parts :=
  ⟨fun line hline => h.plain line (List.mem_append_right _ hline),
    fun first rest hmem => h.group first rest (List.mem_cons_of_mem _ hmem)⟩

theorem Steady.plain_block {first : List Char} {rest : List (List Char)} {parts : List Part}
    (h : Steady (.block first rest :: parts)) : ∀ line ∈ first :: rest, Plain line :=
  fun line hline => h.plain line (List.mem_append_left _ hline)

theorem depthBehind_trim (depth : Nat) (line : List Char) :
    depthBehind depth (trim line) = depthBehind depth line := by
  unfold depthBehind
  rw [codePart_trim]

theorem Closes.congr {depth : Nat} {line line' : List Char} {rest rest' : List (List Char)}
    (h : Closes depth (line :: rest)) (hline : ∀ depth, depthBehind depth line' = depthBehind depth line)
    (hrest : ∀ depth, Closes depth rest → Closes depth rest') (hnil : rest = [] → rest' = []) :
    Closes depth (line' :: rest') := by
  cases h with
  | last h =>
    rw [hnil rfl]
    exact .last (by rw [hline, h])
  | more h hbody =>
    exact .more (by rwa [hline]) (by rw [hline]; exact hrest _ hbody)

theorem StaysOpen.congr {depth final : Nat} {line line' : List Char} {rest rest' : List (List Char)}
    (h : StaysOpen depth (line :: rest) final)
    (hline : ∀ depth, depthBehind depth line' = depthBehind depth line)
    (hrest : ∀ depth, StaysOpen depth rest final → StaysOpen depth rest' final) :
    StaysOpen depth (line' :: rest') final := by
  cases h with
  | cons h hbody => exact .cons (by rwa [hline]) (by rw [hline]; exact hrest _ hbody)

theorem Closes.map_settledLine {depth : Nat} {ls : List (List Char)} (h : Closes depth ls)
    (hplain : ∀ line ∈ ls, Plain line) : Closes depth (ls.map settledLine) := by
  induction ls generalizing depth with
  | nil => cases h
  | cons line ls ih =>
    obtain ⟨hline, hls⟩ := List.forall_mem_cons.mp hplain
    exact h.congr (depthBehind_settledLine hline) (fun _ hrest => ih hrest hls) (fun hnil => by rw [hnil]; rfl)

theorem StaysOpen.map_settledLine {depth final : Nat} {ls : List (List Char)}
    (h : StaysOpen depth ls final) (hplain : ∀ line ∈ ls, Plain line) :
    StaysOpen depth (ls.map settledLine) final := by
  induction ls generalizing depth with
  | nil => exact h
  | cons line ls ih =>
    obtain ⟨hline, hls⟩ := List.forall_mem_cons.mp hplain
    exact h.congr (depthBehind_settledLine hline) (fun _ hrest => ih hrest hls)

/-- The lines of a block as the second run finds them. -/
theorem settled_block {around mid : Surroundings} {first : List Char} {rest : List (List Char)}
    (hplain : ∀ line ∈ first :: rest, Plain line) (hopen : Opens around first)
    (hindent : mid.indent = around.indent) (hgroup : ¬ TaggedGroup first) :
    Opens mid (settledLine (trim first)) ∧
      (blockLines (settledLine (trim first)) (rest.map settledLine)).map settledLine =
        (blockLines first rest).map settledLine := by
  obtain ⟨hfirst, hrest⟩ := List.forall_mem_cons.mp hplain
  have htrim : Plain (trim first) := hfirst.of_infix (trim_isInfix first)
  have hgroup' : ¬ TaggedGroup (trim first) := by
    unfold TaggedGroup at hgroup ⊢
    rwa [codePart_trim]
  have hcode : opensBlock (codePart (trim first)) = true := by rw [codePart_trim, hopen.2]
  obtain ⟨hopens, hends⟩ := opensBlock_settledLine htrim (trim_trim first) hcode hgroup'
  refine ⟨⟨by rw [hindent, hopen.1], hopens⟩, ?_⟩
  have hagain : (rest.map settledLine).map settledLine = rest.map settledLine := by
    rw [List.map_map]
    exact List.map_congr_left fun line hline => settledLine_settledLine (hrest line hline)
  rw [blockLines, blockLines, List.map_cons, List.map_cons, hends, settledLine_settledLine htrim, hagain]

theorem plain_blockLines {first : List Char} {rest : List (List Char)}
    (hplain : ∀ line ∈ first :: rest, Plain line) : ∀ line ∈ blockLines first rest, Plain line := by
  obtain ⟨hfirst, hrest⟩ := List.forall_mem_cons.mp hplain
  exact List.forall_mem_cons.mpr ⟨hfirst.of_infix (trim_isInfix first), hrest⟩

/-! ## The second run -/

/-- The lines of the text are the lines that the layout makes of them. -/
theorem Laid.exists_settled {around : Surroundings} {parts : List Part} {pieces : List Piece}
    {rows : List (List Char)} {final : LayoutState} (h : Laid around parts pieces rows final)
    (hsteady : Steady parts) {next : Surroundings} (hnext : Follows around next) :
    ∃ parts' pieces' final', parts'.flatMap Part.lines = rows ∧ Laid next parts' pieces' rows final' := by
  induction h generalizing next with
  | done around => exact ⟨[], [], _, rfl, .done next⟩
  | again _ _ _ ih =>
    exact ih hsteady.tail hnext
  | @blank around _ _ _ _ _ _ hblank _ ih =>
    obtain ⟨parts', pieces', final', hlines, hlaid⟩ := ih hsteady.tail hnext.behindBlank
    refine ⟨.line [] :: parts', .blank :: pieces', final', ?_, .blank rfl (by rw [hnext.blank, hblank]) hlaid⟩
    rw [List.flatMap_cons, hlines]
    rfl
  | @text around raw _ _ _ _ hraw hopen _ ih =>
    obtain ⟨mid, hindent, hgap, hmid⟩ := hnext.exists_gap
    have htrim : trim (List.replicate (around.depthOf (trim raw)) '\t' ++ trim raw) = trim raw := by
      rw [trim_blank_append (allBlank_replicate_tab _), trim_trim]
    obtain ⟨parts', pieces', final', hlines, hlaid⟩ := ih hsteady.tail (follows_behind hindent (trim raw))
    have hopen' : ¬ Opens mid (List.replicate (around.depthOf (trim raw)) '\t' ++ trim raw) := by
      unfold Opens at hopen ⊢
      rwa [hindent, codePart_blank_append (allBlank_replicate_tab _), codePart_trim]
    rw [← htrim] at hlaid
    have hline := Laid.text (by rwa [htrim]) hopen' hlaid
    rw [htrim, hgap, depthOf_congr hindent] at hline
    obtain ⟨parts'', pieces'', hlines'', hlaid''⟩ := hmid hline
    refine ⟨parts'', pieces'', final', ?_, hlaid''⟩
    rw [hlines'', List.flatMap_cons, hlines]
    rfl
  | @block around first rest _ _ _ _ hopen hclose _ ih =>
    obtain ⟨mid, hindent, hgap, hmid⟩ := hnext.exists_gap
    have hgroup := hsteady.group first rest List.mem_cons_self
    obtain ⟨hopens, hrows⟩ := settled_block hsteady.plain_block hopen hindent hgroup
    have hclose' : Closes 0 (settledLine (trim first) :: rest.map settledLine) :=
      (hclose.congr (fun depth => depthBehind_trim depth first) (fun _ hrest => hrest) id).map_settledLine
        (plain_blockLines hsteady.plain_block)
    obtain ⟨parts', pieces', final', hlines, hlaid⟩ := ih hsteady.tail (follows_behindBlock hindent hgap)
    have hblock := Laid.block hopens hclose' hlaid
    rw [hgap, hrows] at hblock
    obtain ⟨parts'', pieces'', hlines'', hlaid''⟩ := hmid hblock
    rw [List.append_assoc]
    refine ⟨parts'', pieces'', final', ?_, hlaid''⟩
    rw [hlines'', List.flatMap_cons, hlines]
    rfl
  | @unclosed around first rest _ hopen hstay =>
    obtain ⟨mid, hindent, hgap, hmid⟩ := hnext.exists_gap
    have hgroup := hsteady.group first rest List.mem_cons_self
    obtain ⟨hopens, hrows⟩ := settled_block hsteady.plain_block hopen hindent hgroup
    have hstay' : StaysOpen 0 (settledLine (trim first) :: rest.map settledLine) _ :=
      (hstay.congr (fun depth => depthBehind_trim depth first) (fun _ hrest => hrest)).map_settledLine
        (plain_blockLines hsteady.plain_block)
    have hblock := Laid.unclosed hopens hstay'
    rw [hgap, hrows] at hblock
    obtain ⟨parts'', pieces'', hlines'', hlaid''⟩ := hmid hblock
    refine ⟨parts'', pieces'', _, ?_, hlaid''⟩
    rw [hlines'', List.flatMap_singleton]
    rfl

/-! ## Documents -/

/-- A line of a document that opens a block. -/
def OpensBlockOf (document : List Char) (line : List Char) : Prop :=
  ∃ before after around, lines document = before ++ line :: after ∧
    (LayoutState.outside {}).after before = .outside around ∧ Opens around line

/-- A block of an outline starts with a line that opens a block. -/
theorem Laid.exists_opener {around : Surroundings} {parts : List Part} {pieces : List Piece}
    {rows : List (List Char)} {final : LayoutState} (h : Laid around parts pieces rows final)
    {first : List Char} {rest : List (List Char)} (hmem : Part.block first rest ∈ parts) :
    ∃ before after next, parts.flatMap Part.lines = before ++ first :: after ∧
      (LayoutState.outside around).after before = .outside next ∧ Opens next first := by
  have hbehind : ∀ {around behind : Surroundings} {part : Part} {parts : List Part},
      (LayoutState.outside around).after part.lines = .outside behind →
      (∃ before after next, parts.flatMap Part.lines = before ++ first :: after ∧
        (LayoutState.outside behind).after before = .outside next ∧ Opens next first) →
      ∃ before after next, (part :: parts).flatMap Part.lines = before ++ first :: after ∧
        (LayoutState.outside around).after before = .outside next ∧ Opens next first := by
    rintro around behind part parts hpart ⟨before, after, next, hlines, hstate, hopen⟩
    refine ⟨part.lines ++ before, after, next, ?_, ?_, hopen⟩
    · rw [List.flatMap_cons, hlines, List.append_assoc]
    · rw [LayoutState.after_append, hpart, hstate]
  induction h with
  | done around => cases hmem
  | again hraw hblank _ ih =>
    refine hbehind ?_ (ih ((List.mem_cons.mp hmem).resolve_left (by simp)))
    rw [Part.lines, LayoutState.after, LayoutState.feed, LayoutState.feedOutside_again hraw hblank]
    rfl
  | blank hraw hblank _ ih =>
    refine hbehind ?_ (ih ((List.mem_cons.mp hmem).resolve_left (by simp)))
    rw [Part.lines, LayoutState.after, LayoutState.feed, LayoutState.feedOutside_blank hraw hblank]
    rfl
  | text hraw hopen _ ih =>
    refine hbehind ?_ (ih ((List.mem_cons.mp hmem).resolve_left (by simp)))
    rw [Part.lines, LayoutState.after, LayoutState.feed, LayoutState.feedOutside_text hraw hopen]
    rfl
  | @block around first' rest' parts _ _ _ hopen hclose _ ih =>
    rcases List.mem_cons.mp hmem with heq | hmem
    · obtain ⟨rfl, rfl⟩ := Part.block.inj heq
      exact ⟨[], rest ++ parts.flatMap Part.lines, around, rfl, rfl, hopen⟩
    · refine hbehind ?_ (ih hmem)
      have hone : depthBehind 0 first' = 1 := LayoutState.depthBehind_opener rfl hopen.2
      cases hclose with
      | last hdepth => rw [hone] at hdepth; cases hdepth
      | more _ hrest =>
        rw [hone] at hrest
        rw [Part.lines, LayoutState.after, LayoutState.feed, LayoutState.feedOutside_opener hopen,
          LayoutState.after_closes hrest]
  | @unclosed around first' rest' _ hopen _ =>
    obtain ⟨rfl, rfl⟩ := Part.block.inj (List.mem_singleton.mp hmem)
    exact ⟨[], rest, around, by simp [Part.lines], rfl, hopen⟩

theorem not_infix_blockText {w : List Char} (hne : w ≠ []) (hfeed : '\n' ∉ w)
    {rows : List (List Char)} (h : ∀ row ∈ rows, ¬ w <:+: row) : ¬ w <:+: blockText rows := by
  induction rows with
  | nil => exact fun hw => hne (List.infix_nil.mp hw)
  | cons row rows ih =>
    obtain ⟨hrow, hrows⟩ := List.forall_mem_cons.mp h
    rw [blockText_cons]
    intro hw
    rcases infix_append_cons hw with hw | hw | ⟨before, after, rfl, -, -⟩
    · exact hrow hw
    · exact ih hrows hw
    · exact hfeed (List.mem_append_right before List.mem_cons_self)

theorem Plain.blockText {rows : List (List Char)} (h : ∀ row ∈ rows, Plain row) : Plain (blockText rows) :=
  ⟨not_infix_blockText (by decide) (by decide) fun row hrow => (h row hrow).keyword,
    not_infix_blockText (by decide) (by decide) fun row hrow => (h row hrow).group⟩

theorem Plain.indent {line : List Char} (h : Plain line) (depth : Nat) :
    Plain (List.replicate depth '\t' ++ line) := by
  have htab : ∀ c, c ≠ '\t' → c ∉ List.replicate depth '\t' :=
    fun c hc hmem => hc (List.eq_of_mem_replicate hmem)
  refine ⟨fun hw => h.keyword ?_, fun hw => h.group ?_⟩
  · exact infix_of_infix_append_right hw (htab _ (by decide))
  · exact infix_of_infix_append_right hw (htab _ (by decide))

/-- **Idempotence.** When the formatter changes nothing, the layout of a document without carriage
returns, keywords and empty groups is its own layout, unless a line of the document that opens a group
carries a tag. -/
theorem layOut_verbatim_layOut (document : String) (hreturn : '\r' ∉ document.toList)
    (hkeyword : ¬ keyword <:+: document.toList) (hgroup : ¬ emptyGroup <:+: document.toList)
    (htag : ∀ line, OpensBlockOf document.toList line → ¬ TaggedGroup line) :
    ∃ out, layOut .verbatim document = .ok out ∧ layOut .verbatim out = .ok out := by
  obtain ⟨parts, rows, hparts, hlaid⟩ := exists_laid {} (lines document.toList)
  have hplain : ∀ line ∈ parts.flatMap Part.lines, Plain line := by
    intro line hline
    rw [hparts] at hline
    have hinfix := infix_of_mem_lines hline
    refine ⟨fun hw => hkeyword (List.IsInfix.trans ?_ (hw.trans hinfix)), fun hw => hgroup (hw.trans hinfix)⟩
    exact (List.suffix_cons ' ' keyword).isInfix
  have hopeners : ∀ first rest, Part.block first rest ∈ parts → ¬ TaggedGroup first := by
    intro first rest hmem
    obtain ⟨before, after, next, hlines, hstate, hopen⟩ := hlaid.exists_opener hmem
    exact htag first ⟨before, after, next, hparts.symm.trans hlines, hstate, hopen⟩
  have hrows : ∀ row ∈ rows, '\n' ∉ row ∧ row.getLast? ≠ some '\r' := by
    intro row hrow
    refine ⟨?_, fun hlast => ?_⟩
    · refine hlaid.not_mem_rows (Or.inl rfl) (fun line hline => ?_) row hrow
      rw [hparts] at hline
      exact not_mem_of_mem_lines hline
    · refine hlaid.not_mem_rows (Or.inr rfl) (fun line hline => ?_) row hrow (List.mem_of_getLast? hlast)
      rw [hparts] at hline
      exact fun hmem => hreturn ((infix_of_mem_lines hline).subset hmem)
  have hrowsPlain : ∀ row ∈ rows, Plain row :=
    hlaid.forall_rows ⟨by decide, by decide⟩ (fun line h => h.of_infix (trim_isInfix line))
      (fun depth line h => h.indent depth) (fun line h => h.settledLine) hplain
  have hfirst : layOut .verbatim document = .ok (String.ofList (trim (blockText rows))) := by
    have htext : (pieces document.toList).flatMap Piece.settledText = blockText rows := hlaid.text_eq
    rw [layOut_verbatim, htext]
  have hsecond : laidText (.outside {}) (lines (blockText rows)) = blockText rows := by
    obtain ⟨parts', pieces', final', hlines, hlaid'⟩ :=
      hlaid.exists_settled ⟨hplain, hopeners⟩ ⟨rfl, rfl, id, fun h => absurd h Bool.false_ne_true⟩
    have hcut : lines (blockText rows) = rows := lines_flatMap_feed hrows
    rw [hcut, laidText, ← hlaid'.text_eq, ← hlaid'.piecesFrom_eq, hlines]
  refine ⟨_, hfirst, ?_⟩
  have hagain : (pieces (trim (blockText rows))).flatMap Piece.settledText =
      laidText (.outside {}) (lines (trim (blockText rows))) := rfl
  rw [layOut_verbatim, String.toList_ofList, hagain, trim_laidText_trim (Plain.blockText hrowsPlain), hsecond]

/-- A document with blank lines, a group that is left open, and a member with a tag. -/
theorem open_group_settles :
    '\r' ∉ "\n \x7d\n\n\ntype (\n a \x7b  \n b \x60c\x60\n\n\n".toList ∧
      ¬ keyword <:+: "\n \x7d\n\n\ntype (\n a \x7b  \n b \x60c\x60\n\n\n".toList ∧
      ¬ emptyGroup <:+: "\n \x7d\n\n\ntype (\n a \x7b  \n b \x60c\x60\n\n\n".toList ∧
      (∀ line, OpensBlockOf "\n \x7d\n\n\ntype (\n a \x7b  \n b \x60c\x60\n\n\n".toList line →
        ¬ TaggedGroup line) ∧
      ∃ out, layOut .verbatim "\n \x7d\n\n\ntype (\n a \x7b  \n b \x60c\x60\n\n\n" = .ok out ∧
        layOut .verbatim out = .ok out := by
  have hreturn : '\r' ∉ "\n \x7d\n\n\ntype (\n a \x7b  \n b \x60c\x60\n\n\n".toList := by decide
  have hkeyword : ¬ keyword <:+: "\n \x7d\n\n\ntype (\n a \x7b  \n b \x60c\x60\n\n\n".toList :=
    contains_eq_false_iff.mp (by decide)
  have hgroup : ¬ emptyGroup <:+: "\n \x7d\n\n\ntype (\n a \x7b  \n b \x60c\x60\n\n\n".toList :=
    contains_eq_false_iff.mp (by decide)
  have htag : ∀ line, OpensBlockOf "\n \x7d\n\n\ntype (\n a \x7b  \n b \x60c\x60\n\n\n".toList line →
      ¬ TaggedGroup line := by
    have hlines : ∀ line ∈ lines "\n \x7d\n\n\ntype (\n a \x7b  \n b \x60c\x60\n\n\n".toList,
        ¬ TaggedGroup line := by decide
    rintro line ⟨before, after, around, heq, -, -⟩
    exact hlines line (by rw [heq]; exact List.mem_append_right before List.mem_cons_self)
  exact ⟨hreturn, hkeyword, hgroup, htag, layOut_verbatim_layOut _ hreturn hkeyword hgroup htag⟩

/-- The condition on groups is needed: a tag on the line that opens a group gives the line a capital, and
the second run finds no block there. -/
theorem tagged_group_unsettled :
    '\r' ∉ "type \x60a\x60 (\nx\n)".toList ∧ ¬ keyword <:+: "type \x60a\x60 (\nx\n)".toList ∧
      ¬ emptyGroup <:+: "type \x60a\x60 (\nx\n)".toList ∧
      layOut .verbatim "type \x60a\x60 (\nx\n)" = .ok "Type \x60a\x60 (\nx\n)" ∧
      layOut .verbatim "Type \x60a\x60 (\nx\n)" = .ok "Type \x60a\x60 (\n\tx\n)" ∧
      "Type \x60a\x60 (\n\tx\n)" ≠ "Type \x60a\x60 (\nx\n)" := by
  have hkeyword : ¬ keyword <:+: "type \x60a\x60 (\nx\n)".toList := contains_eq_false_iff.mp (by decide)
  have hgroup : ¬ emptyGroup <:+: "type \x60a\x60 (\nx\n)".toList := contains_eq_false_iff.mp (by decide)
  have hpieces : pieces "type \x60a\x60 (\nx\n)".toList =
      [.block "Type \x60a\x60 (\nx\n)\n".toList] := by decide
  have hpieces' : pieces "Type \x60a\x60 (\nx\n)".toList =
      [.line 0 "Type \x60a\x60 (".toList, .line 1 "x".toList, .line 0 ")".toList] := by decide
  have hblock : Plain "Type \x60a\x60 (\nx\n)\n".toList :=
    ⟨contains_eq_false_iff.mp (by decide), contains_eq_false_iff.mp (by decide)⟩
  refine ⟨by decide, hkeyword, hgroup, ?_, ?_, by decide⟩
  · rw [layOut_verbatim, hpieces, List.flatMap_singleton, Piece.settledText, hblock.withoutKeyword_eq_self]
    decide
  · rw [layOut_verbatim, hpieces']
    decide

end TableCodegen
