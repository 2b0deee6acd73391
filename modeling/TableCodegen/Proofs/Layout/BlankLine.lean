import TableCodegen.Proofs.Layout.Comment

/-!
# Blank lines of a layout

The layout remembers two things of the lines it has read: that the last one was blank, and that the last one
outside blocks was a closing brace alone. Here it is shown which blank lines come of this when the formatter
changes nothing. Two lines that are not in the same block are the last line of one part of a document and the
first line of a later one, so that the law is stated for the parts.

Results:

* `exists_mark_settledLine_opener`, `exists_mark_settledLine_closer`: a block starts and ends with a line that is
  not blank.
* `Remembers.step`, `Laid.remembers`: what is remembered behind one part, and behind all of them.
* `Laid.exists_gap`: the blank lines in front of a part.
* `blank_lines_between`: the blank lines between two parts that only blank lines stand between.
* `group_behind_brace_set_apart`: a block behind a closing brace.

**Deviation.** Only the line behind a closing brace is to be set apart. But a block leaves the memory of the brace
as it is, so that the line behind the block is set apart as well.
-/

namespace TableCodegen

open TableCodegen.Text

/-! ## Specification -/

/-- The part is a blank line outside blocks. -/
def Part.IsBlank : Part → Prop
  | line raw => trim raw = []
  | block _ _ => False

/-- The part is a closing brace alone on a line outside blocks. -/
def Part.IsLoneBrace : Part → Prop
  | line raw => trim raw = ['\x7d']
  | block _ _ => False

/-- The part is a block. -/
def Part.IsBlock : Part → Prop
  | line _ => False
  | block _ _ => True

/-- The parts end with a lone closing brace, but for blocks behind it. -/
inductive EndsWithBrace : List Part → Prop where
  | brace {front : List Part} {part : Part} (h : part.IsLoneBrace) : EndsWithBrace (front ++ [part])
  | block {front : List Part} {part : Part} (h : part.IsBlock) (hfront : EndsWithBrace front) :
      EndsWithBrace (front ++ [part])

/-! ## The ends of a block -/

/-- A character that is in no keyword and in no empty group, or that its replacement has. -/
theorem mem_withoutKeyword_of_mem {c : Char} (hkeyword : c ∉ spacedKeyword ++ [' '])
    (hbody : c ∈ spacedKeyword ++ ['\x7b', '\x7d'] → c ∈ [' ', '\x7b', '\x7d']) (hgroup : c ∉ emptyGroup)
    {cs : List Char} (h : c ∈ cs) : c ∈ withoutKeyword cs := by
  rw [withoutKeyword_eq]
  exact mem_replace_of_mem (fun hc => absurd hc hgroup)
    (mem_replace_of_mem hbody (mem_replace_of_mem (fun hc => absurd hc hkeyword) h))

/-- An opening bracket that is not closed at once is kept. -/
theorem opener_mem_withoutKeyword {u v : List Char} (h : v.head? ≠ some ')') :
    '(' ∈ withoutKeyword (u ++ '(' :: v) := by
  rw [withoutKeyword_eq, replace_append_cons (by decide), replace_append_cons (by decide)]
  refine mem_replace_append_cons fun before after heq _ hafter => h ?_
  have hsplit : "type ".toList ++ '(' :: [')'] = before ++ '(' :: after := heq
  obtain ⟨-, -, rfl⟩ := (List.append_cons_inj_of_notMem (by decide) (by decide)).mp hsplit
  obtain ⟨w, hw⟩ := hafter
  have hhead : (replace (spacedKeyword ++ ['\x7b', '\x7d']) [' ', '\x7b', '\x7d']
      (replace (spacedKeyword ++ [' ']) [' '] v)).head? = v.head? :=
    (head?_replace ' ' _ _ _).trans (head?_replace ' ' _ _ _)
  rw [← hhead, ← hw]
  rfl

/-- A closing bracket is kept when no letter of an empty group stands before it. -/
theorem closer_mem_withoutKeyword {u v : List Char} (h : 't' ∉ u) : ')' ∈ withoutKeyword (u ++ ')' :: v) := by
  rw [withoutKeyword_eq, replace_append_cons (by decide), replace_append_cons (by decide)]
  refine mem_replace_append_cons fun before after heq hbefore _ => h ?_
  have hsplit : "type (".toList ++ ')' :: [] = before ++ ')' :: after := heq
  obtain ⟨rfl, -, -⟩ := (List.append_cons_inj_of_notMem (by decide) (by decide)).mp hsplit
  have hletter : 't' ∈ "type (".toList := by decide
  have hbody := (mem_replace (hbefore.subset hletter)).resolve_right (by decide)
  exact (mem_replace hbody).resolve_right (by decide)

/-- A line is its code between blanks, and its comment. -/
theorem exists_line_code (line : List Char) :
    ∃ lead rest, AllBlank lead ∧ line = lead ++ codePart line ++ rest ∧ rest.head? ≠ some ')' := by
  obtain ⟨lead, tail, hlead, htail, heq⟩ := exists_trim (codeFrom none line)
  refine ⟨lead, tail ++ commentOf line, hlead, ?_, ?_⟩
  · rw [codePart, ← List.append_assoc, ← heq, codeFrom_append_commentOf]
  · intro hhead
    cases tail with
    | nil =>
      rcases commentOf_eq_or line with hcomment | ⟨body, hcomment⟩
      · rw [hcomment] at hhead
        cases hhead
      · rw [hcomment] at hhead
        cases hhead
    | cons c tail =>
      obtain rfl : c = ')' := Option.some.inj hhead
      exact absurd htail.of_cons.1 (by decide)

/-- A character that is its own capital is kept. -/
theorem mem_capitalized_of_mem {c : Char} (hc : Unicode.upper c = [c]) {cs : List Char} (h : c ∈ cs) :
    c ∈ capitalized cs := by
  cases cs with
  | nil => exact h
  | cons d rest =>
    rw [capitalized_cons]
    rcases List.mem_cons.mp h with rfl | h
    · exact List.mem_append_left _ (by rw [hc]; exact List.mem_singleton_self c)
    · exact List.mem_append_right _ h

/-- The first line of a block does not come back as a blank line. -/
theorem exists_mark_settledLine_opener {line : List Char} (htrim : trim line = line)
    (h : opensBlock (codePart line) = true) : ∃ c ∈ settledLine line, isBlank c = false := by
  obtain ⟨hword, hopen⟩ := opensBlock_iff.mp h
  cases hbody : opensBody (codePart line) with
  | true =>
    refine ⟨'\x7b', mem_withoutKeyword_of_mem (by decide) (by decide) (by decide) ?_, rfl⟩
    rw [blockLine_body hbody]
    have hmem : '\x7b' ∈ line := mem_of_codePart (brace_mem_of_opensBody hbody)
    rcases withKeyword_cases line with hsame | ⟨name, post, -, -, hkeyword⟩
    · rwa [hsame]
    · rw [hkeyword]
      simp
  | false =>
    by_cases htag : '\x60' ∈ codePart line
    · refine ⟨'\x60', mem_withoutKeyword_of_mem (by decide) (by decide) (by decide) ?_, rfl⟩
      rw [blockLine_member hbody htag, htrim]
      exact mem_capitalized_of_mem (by decide) (mem_of_codePart htag)
    · have hround : ∃ front, codePart line = front ++ ['('] := by
        unfold opensBody at hbody
        unfold endsOpen at hopen
        rw [(Bool.or_eq_false_iff.mp hbody).1, Bool.false_or] at hopen
        exact List.getLast?_eq_some_iff.mp (of_decide_eq_true hopen)
      obtain ⟨front, hfront⟩ := hround
      obtain ⟨lead, rest, -, hline, hrest⟩ := exists_line_code line
      refine ⟨'(', ?_, rfl⟩
      rw [settledLine, blockLine_other hbody htag, hline, hfront, ← List.append_assoc, List.append_assoc]
      exact opener_mem_withoutKeyword hrest

/-- The last line of a block does not come back as a blank line. -/
theorem exists_mark_settledLine_closer {line : List Char} (h : isLoneCloser (codePart line) = true) :
    ∃ c ∈ settledLine line, isBlank c = false := by
  unfold isLoneCloser at h
  rw [Bool.or_eq_true, decide_eq_true_eq, decide_eq_true_eq] at h
  obtain ⟨lead, rest, hlead, hline, -⟩ := exists_line_code line
  rcases h with h | h
  · have hblock : blockLine line = line := blockLine_other (by rw [h]; decide) (by rw [h]; decide)
    refine ⟨'\x7d', mem_withoutKeyword_of_mem (by decide) (by decide) (by decide) ?_, rfl⟩
    rw [hblock]
    exact mem_of_codePart (by rw [h]; decide)
  · have hblock : blockLine line = line := blockLine_other (by rw [h]; decide) (by rw [h]; decide)
    refine ⟨')', ?_, rfl⟩
    rw [settledLine, hblock, hline, h, List.append_assoc]
    exact closer_mem_withoutKeyword (not_mem_of_allBlank hlead rfl)

/-- A block that is open ends with a lone closer. -/
theorem Closes.exists_closer {depth : Nat} {ls : List (List Char)} (h : Closes depth ls) (hdepth : depth ≠ 0) :
    ∃ front last, ls = front ++ [last] ∧ isLoneCloser (codePart last) = true := by
  induction h with
  | @last depth line h =>
    refine ⟨[], line, rfl, ?_⟩
    rw [← Bool.not_eq_false]
    intro hcloser
    unfold depthBehind at h
    rw [hcloser] at h
    simp only [Bool.false_eq_true, if_false] at h
    split at h <;> omega
  | @more depth line rest h _ ih =>
    obtain ⟨front, last, rfl, hlast⟩ := ih h
    exact ⟨line :: front, last, rfl, hlast⟩

/-! ## What is remembered -/

theorem endsWithBrace_concat_iff {front : List Part} {part : Part} :
    EndsWithBrace (front ++ [part]) ↔ part.IsLoneBrace ∨ part.IsBlock ∧ EndsWithBrace front := by
  constructor
  · intro h
    generalize hparts : front ++ [part] = parts at h
    cases h with
    | @brace _ _ h =>
      obtain ⟨-, heq⟩ := List.append_inj' hparts rfl
      obtain rfl := List.singleton_inj.mp heq
      exact Or.inl h
    | @block _ _ h hfront =>
      obtain ⟨rfl, heq⟩ := List.append_inj' hparts rfl
      obtain rfl := List.singleton_inj.mp heq
      exact Or.inr ⟨h, hfront⟩
  · rintro (h | ⟨h, hfront⟩)
    · exact .brace h
    · exact .block h hfront

/-- What the layout remembers of the parts it has read. -/
structure Remembers (around : Surroundings) (parts : List Part) : Prop where
  brace : around.afterBrace = true ↔ EndsWithBrace parts
  /-- A blank line takes the memory of a closing brace away. -/
  blank : around.afterBlank = true → around.afterBrace = false

/-- One part changes the memory as it changes the end of the parts. -/
theorem Remembers.step {around mid : Surroundings} {front : List Part} (h : Remembers around front) {part : Part}
    {pieces : List Piece} {rows : List (List Char)} (hpart : Laid around [part] pieces rows (.outside mid)) :
    Remembers mid (front ++ [part]) := by
  -- a blank line ends the memory of a brace, whether a row comes of it or not
  have hplain : ∀ raw, trim raw = [] → ¬ EndsWithBrace (front ++ [.line raw]) := by
    intro raw hraw hends
    rcases endsWithBrace_concat_iff.mp hends with hbrace | ⟨hblock, -⟩
    · rw [Part.IsLoneBrace, hraw] at hbrace
      cases hbrace
    · exact hblock
  cases hpart with
  | @again _ raw _ _ _ _ hraw hblank hrest =>
    cases hrest
    refine ⟨?_, h.blank⟩
    rw [h.blank hblank]
    exact iff_of_false Bool.false_ne_true (hplain raw hraw)
  | @blank _ raw _ _ _ _ hraw _ hrest =>
    cases hrest
    exact ⟨iff_of_false Bool.false_ne_true (hplain raw hraw), fun _ => rfl⟩
  | @text _ raw _ _ _ _ _ _ hrest =>
    cases hrest
    refine ⟨?_, fun hblank => by cases hblank⟩
    rw [endsWithBrace_concat_iff]
    simp [Surroundings.behind, Part.IsLoneBrace, Part.IsBlock]
  | @block _ first rest _ _ _ _ _ _ hrest =>
    cases hrest
    refine ⟨?_, fun hblank => by cases hblank⟩
    rw [endsWithBrace_concat_iff, ← h.brace]
    simp [Surroundings.behindBlock, Part.IsLoneBrace, Part.IsBlock]

/-- The memory behind the parts of a document. -/
theorem Laid.remembers {parts : List Part} {pieces : List Piece} {rows : List (List Char)} {mid : Surroundings}
    (h : Laid {} parts pieces rows (.outside mid)) : Remembers mid parts := by
  -- a part changes what is remembered of the parts before it, so that they are taken from the right
  induction parts using List.reverseRecOn generalizing pieces rows mid with
  | nil =>
    cases h
    refine ⟨iff_of_false Bool.false_ne_true fun hends => ?_, fun _ => rfl⟩
    generalize hparts : ([] : List Part) = parts at hends
    cases hends with
    | brace _ => simp at hparts
    | block _ _ => simp at hparts
  | append_singleton front part ih =>
    obtain ⟨around, _, _, _, _, hfront, hpart, -, -⟩ := h.exists_split (List.cons_ne_nil part [])
    exact (ih hfront).step hpart

/-! ## The rows around a joint -/

theorem trim_tabs_append {depth : Nat} (line : List Char) :
    trim (List.replicate depth '\t' ++ trim line) = trim line := by
  rw [trim_blank_append (allBlank_replicate_tab depth), trim_trim]

/-- A part that is not blank starts with a row that is not blank, behind the gap it finds. -/
theorem Laid.exists_firstRow {around : Surroundings} {part : Part} {parts : List Part} {pieces : List Piece}
    {rows : List (List Char)} {final : LayoutState} (h : Laid around (part :: parts) pieces rows final)
    (hpart : ¬ part.IsBlank) :
    ∃ first back, rows = around.gap.map (fun _ => []) ++ first :: back ∧ trim first ≠ [] := by
  have hopener : ∀ {raw : List Char}, Opens around raw → trim (settledLine (trim raw)) ≠ [] := by
    intro raw hopen
    refine trim_ne_nil_of_exists (exists_mark_settledLine_opener (trim_trim raw) ?_)
    rw [codePart_trim]
    exact hopen.2
  cases h with
  | again hraw _ _ => exact absurd hraw hpart
  | blank hraw _ _ => exact absurd hraw hpart
  | text hraw _ _ => exact ⟨_, _, rfl, by rwa [trim_tabs_append]⟩
  | @block _ first rest _ _ rows _ hopen _ _ =>
    refine ⟨settledLine (trim first), rest.map settledLine ++ rows, ?_, hopener hopen⟩
    rw [blockLines, List.map_cons, List.append_assoc, List.cons_append]
  | unclosed hopen _ => exact ⟨_, _, rfl, hopener hopen⟩

/-- A part that is not blank ends with a row that is not blank, and no blank line is remembered behind it. -/
theorem Laid.exists_lastRow {around mid : Surroundings} {part : Part} {pieces : List Piece}
    {rows : List (List Char)} (h : Laid around [part] pieces rows (.outside mid)) (hpart : ¬ part.IsBlank) :
    mid.afterBlank = false ∧ ∃ front last, rows = front ++ [last] ∧ trim last ≠ [] := by
  cases h with
  | again hraw _ _ => exact absurd hraw hpart
  | blank hraw _ _ => exact absurd hraw hpart
  | text hraw _ hrest =>
    cases hrest
    exact ⟨rfl, _, _, rfl, by rwa [trim_tabs_append]⟩
  | @block _ first rest _ _ _ _ hopen hclose hrest =>
    cases hrest
    have hone : depthBehind 0 first = 1 := LayoutState.depthBehind_opener rfl hopen.2
    cases hclose with
    | last hdepth => rw [hone] at hdepth; cases hdepth
    | more hdepth hclose =>
      obtain ⟨front, last, rfl, hcloser⟩ := hclose.exists_closer hdepth
      refine ⟨rfl, around.gap.map (fun _ => []) ++ (blockLines first front).map settledLine, settledLine last, ?_,
        trim_ne_nil_of_exists (exists_mark_settledLine_closer hcloser)⟩
      simp [blockLines]

/-- Behind a blank line there is no gap, and no other blank line is laid out. -/
theorem Laid.exists_row_behind_blank {around : Surroundings} {blanks parts : List Part} {part : Part}
    {pieces : List Piece} {rows : List (List Char)} {final : LayoutState}
    (h : Laid around (blanks ++ part :: parts) pieces rows final) (hblanks : ∀ b ∈ blanks, b.IsBlank)
    (hpart : ¬ part.IsBlank) (hblank : around.afterBlank = true) (hbrace : around.afterBrace = false) :
    ∃ first back, rows = first :: back ∧ trim first ≠ [] := by
  induction blanks generalizing pieces rows with
  | nil =>
    obtain ⟨first, back, rfl, hfirst⟩ := h.exists_firstRow hpart
    refine ⟨first, back, ?_, hfirst⟩
    rw [Surroundings.gap, hbrace]
    rfl
  | cons b blanks ih =>
    obtain ⟨hb, hrestBlank⟩ := List.forall_mem_cons.mp hblanks
    rw [List.cons_append] at h
    generalize hparts : blanks ++ part :: parts = behind at h
    cases h with
    | again _ _ hrest =>
      subst hparts
      exact ih hrest hrestBlank
    | blank _ hno _ =>
      rw [hblank] at hno
      cases hno
    | text hraw _ _ => exact absurd hb hraw
    | block _ _ _ => exact hb.elim
    | unclosed _ _ => exact hb.elim

/-- The gap in front of a part: the blank lines there become one, and a closing brace asks for one. -/
theorem Laid.exists_gap {around : Surroundings} {blanks parts : List Part} {part : Part} {pieces : List Piece}
    {rows : List (List Char)} {final : LayoutState} (h : Laid around (blanks ++ part :: parts) pieces rows final)
    (hblanks : ∀ b ∈ blanks, b.IsBlank) (hpart : ¬ part.IsBlank) (hblank : around.afterBlank = false) :
    ∃ gap first back, rows = gap ++ first :: back ∧ trim first ≠ [] ∧ (gap = [] ∨ gap = [[]]) ∧
      (gap = [[]] ↔ blanks ≠ [] ∨ around.afterBrace = true) := by
  cases blanks with
  | nil =>
    obtain ⟨first, back, rfl, hfirst⟩ := h.exists_firstRow hpart
    refine ⟨around.gap.map fun _ => [], first, back, rfl, hfirst, ?_⟩
    unfold Surroundings.gap
    cases around.afterBrace <;> simp
  | cons b blanks =>
    obtain ⟨hb, hrestBlank⟩ := List.forall_mem_cons.mp hblanks
    rw [List.cons_append] at h
    generalize hparts : blanks ++ part :: parts = behind at h
    cases h with
    | again _ hyes _ =>
      rw [hblank] at hyes
      cases hyes
    | blank _ _ hrest =>
      subst hparts
      obtain ⟨first, back, rfl, hfirst⟩ := hrest.exists_row_behind_blank hrestBlank hpart rfl rfl
      exact ⟨[[]], first, back, rfl, hfirst, Or.inr rfl, by simp⟩
    | text hraw _ _ => exact absurd hb hraw
    | block _ _ _ => exact hb.elim
    | unclosed _ _ => exact hb.elim

/-! ## The text -/

/-- Blanks at the ends of a text do not reach over two rows that are not blank. -/
theorem trim_blockText_joint {last first : List Char} (hlast : trim last ≠ []) (hfirst : trim first ≠ [])
    (front gap back : List (List Char)) :
    trim (blockText (front ++ last :: (gap ++ first :: back))) =
      trimStart (blockText front ++ last) ++ '\n' ::
        (blockText gap ++ trimEnd (first ++ '\n' :: blockText back)) := by
  have htext : blockText (front ++ last :: (gap ++ first :: back)) =
      (blockText front ++ last) ++ ('\n' :: blockText gap ++ (first ++ '\n' :: blockText back)) := by
    rw [blockText_append, blockText_cons, blockText_append, blockText_cons]
    simp
  have hfront : ∃ c ∈ blockText front ++ last, isBlank c = false := by
    obtain ⟨c, hc, hmark⟩ := exists_of_trim_ne_nil hlast
    exact ⟨c, List.mem_append_right _ hc, hmark⟩
  have hback : ∃ c ∈ first ++ '\n' :: blockText back, isBlank c = false := by
    obtain ⟨c, hc, hmark⟩ := exists_of_trim_ne_nil hfirst
    exact ⟨c, List.mem_append_left _ hc, hmark⟩
  rw [htext, trim_eq, trimStart_append_of_exists hfront, ← List.append_assoc,
    trimEnd_append_of_exists hback]
  simp

/-- The rows of the parts `u` end with `last`, and the rows of the parts `v` behind them start with `first`, behind
the rows `gap`; neither of the two is blank. -/
structure Joint (u v : List Part) (final : LayoutState) (front : List (List Char)) (last : List Char)
    (gap : List (List Char)) (first : List Char) (back : List (List Char)) : Prop where
  laid : ∃ around piecesFront piecesBack, Laid {} u piecesFront (front ++ [last]) (.outside around) ∧
    Laid around v piecesBack (gap ++ first :: back) final
  last_mark : trim last ≠ []
  first_mark : trim first ≠ []

/-- **The blank lines of a layout**, when the formatter changes nothing. Take two parts of a document that only
blank lines stand between. Then there is at most one blank line between them in the layout; and there is one if
the document has some there, or the first part is a lone closing brace, or it is a block and a lone closing brace
comes before it, with nothing but blocks between the two. -/
theorem blank_lines_between (document : String) :
    ∃ parts rows final, parts.flatMap Part.lines = lines document.toList ∧
      Laid {} parts (pieces document.toList) rows final ∧ (∀ row ∈ rows, '\n' ∉ row) ∧
      ∀ before a blanks b after, parts = before ++ a :: (blanks ++ b :: after) →
        ¬ a.IsBlank → (∀ part ∈ blanks, part.IsBlank) → ¬ b.IsBlank →
        ∃ front last gap first back,
          rows = front ++ last :: (gap ++ first :: back) ∧
          Joint (before ++ [a]) (blanks ++ b :: after) final front last gap first back ∧
          layOut .verbatim document =
            .ok (String.ofList (trimStart (blockText front ++ last) ++ '\n' ::
              (blockText gap ++ trimEnd (first ++ '\n' :: blockText back)))) ∧
          (gap = [] ∨ gap = [[]]) ∧
          (gap = [[]] ↔ blanks ≠ [] ∨ a.IsLoneBrace ∨ a.IsBlock ∧ EndsWithBrace before) := by
  obtain ⟨parts, rows, hparts, hlaid⟩ := exists_laid {} (lines document.toList)
  have hrows : ∀ row ∈ rows, '\n' ∉ row := by
    refine hlaid.not_mem_rows (Or.inl rfl) fun line hline => ?_
    rw [hparts] at hline
    exact not_mem_of_mem_lines hline
  refine ⟨parts, rows, _, hparts, hlaid, hrows, ?_⟩
  rintro before a blanks b after rfl ha hblanks hb
  have htext : (pieces document.toList).flatMap Piece.settledText = blockText rows := hlaid.text_eq
  rw [List.append_cons] at hlaid
  obtain ⟨mid, piecesFront, piecesBack, upper, lower, hfront, hback, -, rfl⟩ := hlaid.exists_split (by simp)
  have hbrace : mid.afterBrace = true ↔ a.IsLoneBrace ∨ a.IsBlock ∧ EndsWithBrace before := by
    rw [hfront.remembers.brace, endsWithBrace_concat_iff]
  obtain ⟨_, _, _, outer, own, -, hpart, -, rfl⟩ := hfront.exists_split (List.cons_ne_nil a [])
  obtain ⟨hblank, inner, last, rfl, hlast⟩ := hpart.exists_lastRow ha
  obtain ⟨gap, first, back, rfl, hfirst, hone, hgap⟩ := hback.exists_gap hblanks hb hblank
  rw [← List.append_assoc] at hfront
  refine ⟨outer ++ inner, last, gap, first, back, by simp, ?_, ?_, hone, ?_⟩
  · exact ⟨⟨mid, _, _, hfront, hback⟩, hlast, hfirst⟩
  · rw [layOut_verbatim, htext, ← trim_blockText_joint hlast hfirst]
    simp
  · rw [hgap, hbrace]

/-- The block behind a closing brace is set apart from it, and the line behind the block from the block. -/
theorem group_behind_brace_set_apart :
    layOut .verbatim "service s \x7b\n\x7d\ntype (\n)\nservice t \x7b\n\x7d\n" =
      .ok "service s \x7b\n\x7d\n\ntype (\n)\n\nservice t \x7b\n\x7d" := by
  have hpieces : pieces "service s \x7b\n\x7d\ntype (\n)\nservice t \x7b\n\x7d\n".toList =
      [.line 0 "service s \x7b".toList, .line 0 "\x7d".toList, .blank, .block "type (\n)\n".toList, .blank,
        .line 0 "service t \x7b".toList, .line 0 "\x7d".toList] := by decide
  have hblock : withoutKeyword "type (\n)\n".toList = "type (\n)\n".toList := by cbv
  rw [layOut_verbatim, hpieces]
  simp only [List.flatMap_cons, List.flatMap_nil, Piece.settledText, hblock]
  decide

end TableCodegen
