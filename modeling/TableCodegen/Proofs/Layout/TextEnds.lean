import TableCodegen.Proofs.Layout.Outline

/-!
# Blanks at the ends of a document

The layout of a document starts and ends without blanks. Here blanks are put at the ends of a document:
they make blank lines, or lines with blanks at their ends, and none of this is seen in the layout, as long
as the formatter changes nothing.

Results:

* `trim_laidText_lead`: blanks at the start.
* `trim_laidText_tail`: blanks at the end, which may belong to a block that is left open.
* `trim_laidText_trim`: the layout of a document without the blanks at its ends.
-/

namespace TableCodegen

open TableCodegen.Text

/-- The text of the pieces of some lines when the formatter changes nothing. -/
def laidText (state : LayoutState) (ls : List (List Char)) : List Char :=
  (state.piecesFrom ls).flatMap Piece.settledText

theorem laidText_cons (state : LayoutState) (line : List Char) (ls : List (List Char)) :
    laidText state (line :: ls) =
      (state.feed line).1.flatMap Piece.settledText ++ laidText (state.feed line).2 ls := by
  rw [laidText, LayoutState.piecesFrom_cons, List.flatMap_append]
  rfl

/-- The text of the first lines does not depend on the lines behind them. -/
theorem exists_laidText_append (state : LayoutState) (u : List (List Char)) :
    ∃ front, ∀ v, laidText state (u ++ v) = front ++ laidText (state.after u) v := by
  induction u generalizing state with
  | nil => exact ⟨[], fun v => rfl⟩
  | cons line u ih =>
    obtain ⟨front, h⟩ := ih (state.feed line).2
    refine ⟨(state.feed line).1.flatMap Piece.settledText ++ front, fun v => ?_⟩
    rw [List.cons_append, laidText_cons, h, List.append_assoc]
    rfl

/-! ## The start -/

/-- Outside blocks, lines are taken in without blanks at their ends. -/
theorem laidText_congr_trim {around : Surroundings} {u v : List Char} (h : trim u = trim v)
    (ls : List (List Char)) :
    laidText (.outside around) (u :: ls) = laidText (.outside around) (v :: ls) := by
  have hfeed : LayoutState.feedOutside around u = LayoutState.feedOutside around v := by
    unfold LayoutState.feedOutside
    rw [h]
  rw [laidText_cons, laidText_cons, LayoutState.feed, LayoutState.feed, hfeed]

theorem trim_cons_blank {c : Char} (hc : isBlank c = true) (cs : List Char) : trim (c :: cs) = trim cs := by
  have hlead : AllBlank [c] := by simpa [AllBlank] using hc
  exact trim_blank_append hlead cs

theorem laidText_blank {around : Surroundings} {b : List Char} (hb : AllBlank b)
    (hblank : around.afterBlank = false) (ls : List (List Char)) :
    laidText (.outside around) (b :: ls) = '\n' :: laidText (.outside around.behindBlank) ls := by
  rw [laidText_cons, LayoutState.feed, LayoutState.feedOutside_blank (trim_eq_nil_iff.mpr hb) hblank]
  rfl

/-- A blank line at the start, or two of them. -/
theorem trim_laidText_blank {b : List Char} (hb : AllBlank b) (ls : List (List Char)) :
    trim (laidText (.outside {}) (b :: ls)) = trim (laidText (.outside {}) ls) := by
  rw [laidText_blank hb rfl, trim_cons_blank (c := '\n') rfl]
  cases ls with
  | nil => rfl
  | cons line ls =>
    by_cases hline : trim line = []
    · have hfirst : laidText (.outside {}) (line :: ls) =
          '\n' :: laidText (.outside (Surroundings.behindBlank {})) ls :=
        laidText_blank (trim_eq_nil_iff.mp hline) rfl ls
      rw [hfirst, trim_cons_blank (c := '\n') rfl, laidText_cons, LayoutState.feed, LayoutState.feedOutside_again hline rfl]
      rfl
    · -- a line that is not blank does not look back at a blank line
      have hempty : (trim line).isEmpty = false := by simpa using hline
      have hfeed : LayoutState.feedOutside (Surroundings.behindBlank {}) line =
          LayoutState.feedOutside {} line := by
        unfold LayoutState.feedOutside
        simp only [hempty, Bool.false_eq_true, if_false]
        rfl
      rw [laidText_cons, laidText_cons, LayoutState.feed, LayoutState.feed, hfeed]

theorem trim_dropReturn (line : List Char) : trim (dropReturn line) = trim line := by
  rcases dropReturn_eq line with h | h
  · rw [h]
  · have hblank : AllBlank ['\r'] := by simp [AllBlank, isBlank]
    have := trim_append_blank hblank (dropReturn line)
    rw [← h] at this
    exact this.symm

theorem trim_laidText_lines_cons {c : Char} (hc : isBlank c = true) (cs : List Char) :
    trim (laidText (.outside {}) (lines (c :: cs))) = trim (laidText (.outside {}) (lines cs)) := by
  by_cases hfeed : c = '\n'
  · have hlines : lines ([] ++ '\n' :: cs) = dropReturn [] :: lines cs := lines_feed (by simp) cs
    rw [hfeed, ← List.nil_append ('\n' :: cs), hlines]
    exact trim_laidText_blank AllBlank.nil _
  · by_cases hmem : '\n' ∈ cs
    · obtain ⟨line, rest, rfl, hline⟩ := List.eq_append_cons_of_mem hmem
      have hline' : '\n' ∉ c :: line := by simp [Ne.symm hfeed, hline]
      have htrim : trim (dropReturn (c :: line)) = trim (dropReturn line) := by
        rw [trim_dropReturn, trim_dropReturn, trim_cons_blank hc]
      rw [← List.cons_append, lines_feed hline', lines_feed hline, laidText_congr_trim htrim]
    · have hmem' : '\n' ∉ c :: cs := by simp [Ne.symm hfeed, hmem]
      rw [lines_of_not_mem hmem', lines_of_not_mem hmem, if_neg (List.cons_ne_nil c cs)]
      by_cases hnil : cs = []
      · rw [hnil, if_pos rfl]
        exact trim_laidText_blank (by simpa [AllBlank] using hc) []
      · rw [if_neg hnil, laidText_congr_trim (trim_cons_blank hc cs)]

/-- Blanks at the start of a document are not seen in its layout. -/
theorem trim_laidText_lead {lead : List Char} (h : AllBlank lead) (cs : List Char) :
    trim (laidText (.outside {}) (lines (lead ++ cs))) = trim (laidText (.outside {}) (lines cs)) := by
  induction lead with
  | nil => rfl
  | cons c lead ih =>
    obtain ⟨hc, hlead⟩ := h.of_cons
    rw [List.cons_append, trim_laidText_lines_cons hc, ih hlead]

/-! ## The end -/

/-- Two texts that differ in blanks at their ends. -/
def SameFront (u v : List Char) : Prop :=
  ∃ front x y, AllBlank x ∧ AllBlank y ∧ u = front ++ x ∧ v = front ++ y

theorem SameFront.refl (u : List Char) : SameFront u u :=
  ⟨u, [], [], AllBlank.nil, AllBlank.nil, by simp, by simp⟩

theorem SameFront.trim_append {u v : List Char} (h : SameFront u v) (w : List Char) :
    trim (w ++ u) = trim (w ++ v) := by
  obtain ⟨front, x, y, hx, hy, rfl, rfl⟩ := h
  rw [← List.append_assoc, ← List.append_assoc, trim_append_blank hx, trim_append_blank hy]

/-- Blanks at the end of a line of a block come back, or they are cut off. -/
theorem settledLine_append_blank {line tail : List Char} (htail : AllBlank tail)
    (h : Plain (line ++ tail)) :
    settledLine (line ++ tail) = settledLine line ∨ settledLine (line ++ tail) = settledLine line ++ tail := by
  have hline : Plain line := h.of_infix (List.prefix_append line tail).isInfix
  have hcode : codePart (line ++ tail) = codePart line := codePart_append_blank htail line
  cases hbody : opensBody (codePart line) with
  | true =>
    right
    have hbody' : opensBody (codePart (line ++ tail)) = true := by rw [hcode, hbody]
    obtain ⟨name, post, rfl, hname⟩ := List.eq_append_cons_of_mem
      ((codeFrom_isPrefix none line).subset (mem_codeFrom_of_mem_codePart (brace_mem_of_opensBody hbody)))
    rw [List.append_assoc, List.cons_append] at h hbody' ⊢
    rw [settledLine_body hname hline hbody, settledLine_body hname h hbody']
    simp
  | false =>
    have hbody' : opensBody (codePart (line ++ tail)) = false := by rw [hcode, hbody]
    by_cases htag : '\x60' ∈ codePart line
    · left
      rw [settledLine_member hline hbody htag, settledLine_member h hbody' (by rwa [hcode]),
        trim_append_blank htail]
    · right
      rw [settledLine_other hline hbody htag, settledLine_other h hbody' (by rwa [hcode])]

/-- The last line of a block, whether it closes the block or not. -/
theorem laidText_inside (around : Surroundings) (held : List (List Char)) (depth : Nat)
    (line : List Char) :
    laidText (.inside around held depth) [line] =
      blockText (held.map withoutKeyword) ++ (settledLine line ++ ['\n']) := by
  have htext : (Piece.block (blockText (held ++ [blockLine line]))).settledText =
      blockText (held.map withoutKeyword) ++ (settledLine line ++ ['\n']) := by
    rw [Piece.settledText, withoutKeyword_blockText, withFinalFeed_blockText (by simp), List.map_append,
      blockText_append]
    simp [blockText, settledLine]
  rw [laidText_cons, LayoutState.feed, LayoutState.feedInside_eq]
  split
  · simp [htext, laidText, LayoutState.piecesFrom]
  · simp [htext, laidText, LayoutState.piecesFrom]

theorem sameFront_line (state : LayoutState) {line tail : List Char} (htail : AllBlank tail)
    (h : Plain (line ++ tail)) : SameFront (laidText state [line]) (laidText state [line ++ tail]) := by
  cases state with
  | outside around =>
    rw [laidText_congr_trim (trim_append_blank htail line)]
    exact SameFront.refl _
  | inside around held depth =>
    rw [laidText_inside, laidText_inside]
    rcases settledLine_append_blank htail h with heq | heq
    · rw [heq]
      exact SameFront.refl _
    · rw [heq]
      refine ⟨blockText (held.map withoutKeyword) ++ settledLine line, ['\n'], tail ++ ['\n'], ?_, ?_, ?_, ?_⟩
      · simp [AllBlank, isBlank]
      · exact htail.append (by simp [AllBlank, isBlank])
      · rw [List.append_assoc]
      · simp

theorem sameFront_blank (state : LayoutState) {b : List Char} (hb : AllBlank b) (h : Plain b) :
    SameFront (laidText state []) (laidText state [b]) := by
  cases state with
  | outside around =>
    cases hblank : around.afterBlank with
    | true =>
      rw [laidText_cons, LayoutState.feed, LayoutState.feedOutside_again (trim_eq_nil_iff.mpr hb) hblank]
      exact SameFront.refl _
    | false =>
      rw [laidText_blank hb hblank]
      exact ⟨[], [], ['\n'], AllBlank.nil, by simp [AllBlank, isBlank], rfl, rfl⟩
  | inside around held depth =>
    have hcode : codePart b = [] := by
      rw [← codePart_trim, trim_eq_nil_iff.mpr hb]
      rfl
    have hsettled : settledLine b = b :=
      settledLine_other h (by rw [hcode]; rfl) (by rw [hcode]; exact List.not_mem_nil)
    have hend : AllBlank ['\n'] := by simp [AllBlank, isBlank]
    rw [laidText_inside, hsettled]
    have hheld : laidText (.inside around held depth) [] = withFinalFeed (blockText (held.map withoutKeyword)) := by
      rw [← withoutKeyword_blockText]
      simp [laidText, LayoutState.piecesFrom, Piece.settledText]
    rw [hheld, withFinalFeed]
    split
    · exact ⟨_, [], b ++ ['\n'], AllBlank.nil, hb.append hend, (List.append_nil _).symm, rfl⟩
    · exact ⟨_, ['\n'], b ++ ['\n'], hend, hb.append hend, rfl, rfl⟩

/-- The last line of a text, and the lines before it. -/
theorem exists_last_line (cs : List Char) :
    ∃ front last, '\n' ∉ last ∧ last <:+ cs ∧ ∀ v, lines (cs ++ v) = front ++ lines (last ++ v) := by
  induction cs using lines_induction with
  | last line hline => exact ⟨[], line, hline, List.suffix_rfl, fun v => rfl⟩
  | feed line rest hline ih =>
    obtain ⟨front, last, hlast, hsuffix, h⟩ := ih
    refine ⟨dropReturn line :: front, last, hlast, ?_, fun v => ?_⟩
    · exact hsuffix.trans ((List.suffix_cons '\n' rest).trans (List.suffix_append line _))
    · rw [List.append_assoc, List.cons_append, lines_feed hline, h, List.cons_append]

/-- A blank behind the last line of a document. -/
theorem sameFront_concat (state : LayoutState) {last : List Char} (hlast : '\n' ∉ last) {c : Char}
    (hc : isBlank c = true) (h : Plain (last ++ [c])) :
    SameFront (laidText state (lines last)) (laidText state (lines (last ++ [c]))) := by
  have hblank : AllBlank [c] := by simpa [AllBlank] using hc
  rw [lines_of_not_mem hlast]
  by_cases hfeed : c = '\n'
  · rw [hfeed, lines_feed hlast]
    have hnil : lines [] = [] := rfl
    rw [hnil]
    by_cases hempty : last = []
    · have hplain : Plain [] := h.of_infix (List.nil_infix)
      rw [if_pos hempty, hempty]
      exact sameFront_blank state AllBlank.nil hplain
    · rw [if_neg hempty]
      rcases dropReturn_eq last with heq | heq
      · rw [heq]
        exact SameFront.refl _
      · have hreturn : AllBlank ['\r'] := by simp [AllBlank, isBlank]
        have hplain : Plain (dropReturn last ++ ['\r']) := by
          rw [← heq]
          exact h.of_infix (List.prefix_append last [c]).isInfix
        obtain ⟨front, x, y, hx, hy, hfront, hback⟩ := sameFront_line state hreturn hplain
        rw [← heq] at hback
        exact ⟨front, y, x, hy, hx, hback, hfront⟩
  · have hmem : '\n' ∉ last ++ [c] := by simp [hlast, Ne.symm hfeed]
    have hne : last ++ [c] ≠ [] := by simp
    rw [lines_of_not_mem hmem, if_neg hne]
    by_cases hempty : last = []
    · rw [if_pos hempty]
      rw [hempty] at h ⊢
      exact sameFront_blank state hblank h
    · rw [if_neg hempty]
      exact sameFront_line state hblank h

/-- Blanks at the end of a document are not seen in its layout. -/
theorem trim_laidText_tail (state : LayoutState) {tail : List Char} (htail : AllBlank tail)
    (cs : List Char) (h : Plain (cs ++ tail)) :
    trim (laidText state (lines (cs ++ tail))) = trim (laidText state (lines cs)) := by
  induction tail generalizing cs with
  | nil => rw [List.append_nil]
  | cons c tail ih =>
    obtain ⟨hc, htail⟩ := htail.of_cons
    have hsplit : cs ++ c :: tail = (cs ++ [c]) ++ tail := by simp
    rw [hsplit] at h ⊢
    rw [ih htail (cs ++ [c]) h]
    obtain ⟨front, last, hlast, hsuffix, hlines⟩ := exists_last_line cs
    have hplain : Plain (last ++ [c]) := by
      obtain ⟨u, rfl⟩ := hsuffix
      exact h.of_infix ⟨u, tail, by simp⟩
    obtain ⟨shown, hshown⟩ := exists_laidText_append state front
    have hcs := hlines []
    rw [List.append_nil, List.append_nil] at hcs
    rw [hlines [c], hcs, hshown, hshown]
    exact ((sameFront_concat (state.after front) hlast hc hplain).trim_append shown).symm

/-- The layout of a document does not change when the blanks at its ends are cut off. -/
theorem trim_laidText_trim {cs : List Char} (h : Plain cs) :
    trim (laidText (.outside {}) (lines (trim cs))) = trim (laidText (.outside {}) (lines cs)) := by
  obtain ⟨lead, tail, hlead, htail, heq⟩ := exists_trim cs
  have hplain : Plain (lead ++ trim cs ++ tail) := by rwa [← heq]
  calc trim (laidText (.outside {}) (lines (trim cs)))
      = trim (laidText (.outside {}) (lines (lead ++ trim cs ++ tail))) := by
        rw [trim_laidText_tail _ htail _ hplain, trim_laidText_lead hlead]
    _ = trim (laidText (.outside {}) (lines cs)) := by rw [← heq]

end TableCodegen
