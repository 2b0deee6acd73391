import TableCodegen.Proofs.Layout.Nesting
import TableCodegen.Proofs.Layout.TextEnds
import TableCodegen.Proofs.Layout.WellNested

/-!
# What lines hold

The layout moves lines and adds or drops blank ones. In a document without blocks of types it does no more than that,
so that the lines that are not blank come out in order and, up to the blanks at their ends, as they went in. No
formatter has a part in this.

Results:

* `contents_textOfLines`: what the lines of a document hold.
* `blockless_textOfLines`: documents without blocks.
* `contents_layOut`: the layout of a document without blocks holds the same.
-/

namespace TableCodegen

open TableCodegen.Text

/-! ## Specification -/

/-- The lines of a text that are not blank, without blanks at their ends. -/
def contents (cs : List Char) : List (List Char) :=
  ((lines cs).map trim).filter fun line => !line.isEmpty

/-- A line as far as it counts. -/
def content (line : List Char) : List (List Char) :=
  if trim line = [] then [] else [trim line]

/-! ## Lines -/

theorem content_congr {u v : List Char} (h : trim u = trim v) : content u = content v := by
  rw [content, content, h]

theorem content_of_blank {line : List Char} (h : trim line = []) : content line = [] :=
  if_pos h

theorem contents_eq (cs : List Char) : contents cs = (lines cs).flatMap content := by
  rw [contents]
  induction lines cs with
  | nil => rfl
  | cons line ls ih =>
    rw [List.map_cons, List.flatMap_cons, ← ih, content]
    by_cases hline : trim line = [] <;> simp [hline]

theorem contents_of_not_mem {line : List Char} (h : '\n' ∉ line) : contents line = content line := by
  rw [contents_eq, lines_of_not_mem h]
  split
  · rename_i hnil
    rw [hnil]
    rfl
  · exact List.flatMap_singleton content line

theorem contents_feed {line : List Char} (h : '\n' ∉ line) (rest : List Char) :
    contents (line ++ '\n' :: rest) = content line ++ contents rest := by
  rw [contents_eq, lines_feed h, List.flatMap_cons, content_congr (trim_dropReturn line), ← contents_eq]

/-- The lines of a text, each ended by a line feed. -/
theorem contents_blockText {ls : List (List Char)} (h : ∀ line ∈ ls, '\n' ∉ line) :
    contents (blockText ls) = ls.flatMap content := by
  induction ls with
  | nil => rfl
  | cons line ls ih =>
    obtain ⟨hline, hls⟩ := List.forall_mem_cons.mp h
    have htext : blockText (line :: ls) = line ++ '\n' :: blockText ls := by simp [blockText]
    rw [htext, contents_feed hline, ih hls, List.flatMap_cons]

/-! ## Ends -/

theorem contents_cons_blank {c : Char} (hc : isBlank c = true) (cs : List Char) :
    contents (c :: cs) = contents cs := by
  by_cases hfeed : c = '\n'
  · subst hfeed
    rw [← List.nil_append ('\n' :: cs), contents_feed (List.not_mem_nil), content_of_blank (by rfl), List.nil_append]
  · have hline : ∀ {line : List Char}, '\n' ∉ line → '\n' ∉ c :: line := by
      intro line hline
      rw [List.mem_cons, not_or]
      exact ⟨Ne.symm hfeed, hline⟩
    have hcontent : ∀ line, content (c :: line) = content line := fun line => content_congr (trim_cons_blank hc line)
    cases cs using lines_induction with
    | last line hlast => rw [contents_of_not_mem (hline hlast), contents_of_not_mem hlast, hcontent]
    | feed line rest hfirst => rw [← List.cons_append, contents_feed (hline hfirst), contents_feed hfirst, hcontent]

theorem contents_blank_append {lead : List Char} (h : AllBlank lead) (cs : List Char) :
    contents (lead ++ cs) = contents cs := by
  induction lead with
  | nil => rfl
  | cons c lead ih =>
    obtain ⟨hc, hlead⟩ := h.of_cons
    rw [List.cons_append, contents_cons_blank hc, ih hlead]

theorem contents_of_allBlank {cs : List Char} (h : AllBlank cs) : contents cs = [] := by
  have happend := contents_blank_append h []
  rwa [List.append_nil] at happend

theorem contents_append_blank {tail : List Char} (h : AllBlank tail) (cs : List Char) :
    contents (cs ++ tail) = contents cs := by
  induction cs using lines_induction with
  | feed line rest hline ih =>
    rw [List.append_assoc, List.cons_append, contents_feed hline, contents_feed hline, ih]
  | last line hline =>
    rw [contents_of_not_mem hline]
    have hall : ∀ {front : List Char}, '\n' ∉ front → '\n' ∉ line ++ front := by
      intro front hfront
      rw [List.mem_append, not_or]
      exact ⟨hline, hfront⟩
    by_cases hfeed : '\n' ∈ tail
    · obtain ⟨front, back, rfl, hfront⟩ := List.eq_append_cons_of_mem hfeed
      have hlead : AllBlank front := fun c hc => h c (List.mem_append_left _ hc)
      have hback : AllBlank back := fun c hc => h c (List.mem_append_right _ (List.mem_cons_of_mem _ hc))
      rw [← List.append_assoc, contents_feed (hall hfront), contents_of_allBlank hback, List.append_nil,
        content_congr (trim_append_blank hlead line)]
    · rw [contents_of_not_mem (hall hfeed), content_congr (trim_append_blank h line)]

theorem contents_trim (cs : List Char) : contents (trim cs) = contents cs := by
  obtain ⟨lead, tail, hlead, htail, h⟩ := exists_trim cs
  conv_rhs => rw [h]
  rw [contents_append_blank htail, contents_blank_append hlead]

/-! ## Documents -/

theorem contents_textOfLines {ls : List String} (h : ∀ line ∈ ls, '\n' ∉ line.toList) :
    contents (textOfLines ls).toList = ls.flatMap fun line => content line.toList := by
  have hfeed : AllBlank ['\n'] := by simp [AllBlank, isBlank]
  obtain ⟨tail, htail, htext⟩ := exists_trimEnd (List.intercalate ['\n'] (ls.map String.toList))
  rw [toList_textOfLines, contents_append_blank hfeed, ← contents_append_blank htail, ← htext]
  rcases eq_or_ne ls [] with rfl | hne
  · rfl
  · have hrows : ls.map String.toList ≠ [] := by simpa using hne
    have hplain : ∀ row ∈ ls.map String.toList, '\n' ∉ row := by simpa using h
    rw [← contents_append_blank hfeed, intercalate_feed hrows, contents_blockText hplain, List.flatMap_map]

/-! ## Layouts -/

/-- No line of a document opens a block of types. -/
def Blockless (document : List Char) : Prop :=
  ∀ line ∈ lines document, opensBlock (codePart line) = false

/-- The code of a line is the start of the line. -/
theorem codePart_isPrefix {c : Char} (hc : isBlank c = false) (rest : List Char) : codePart (c :: rest) <+: c :: rest := by
  obtain ⟨tail, htail⟩ := codeFrom_isPrefix none (c :: rest)
  have hcode : codePart (c :: rest) <+: codeFrom none (c :: rest) := by
    rw [codePart, trim_eq]
    cases hfront : codeFrom none (c :: rest) with
    | nil => exact List.prefix_rfl
    | cons d front =>
      rw [hfront, List.cons_append] at htail
      obtain ⟨rfl, -⟩ := List.cons.inj htail
      rw [trimStart_cons hc]
      exact trimEnd_isPrefix _
  exact hcode.trans ⟨tail, htail⟩

/-- A line that does not start with the keyword of types opens no block. -/
theorem opensBlock_of_not_isPrefix {lead : List Char} (hlead : AllBlank lead) {c : Char} (hc : isBlank c = false)
    {rest : List Char} (h : ¬ "type".toList <+: c :: rest) : opensBlock (codePart (lead ++ c :: rest)) = false := by
  rw [codePart_blank_append hlead, ← Bool.not_eq_true]
  intro hopens
  rw [opensBlock, Bool.and_eq_true, isSome_dropHead?_iff] at hopens
  exact h (hopens.1.trans (codePart_isPrefix hc rest))

theorem blockless_textOfLines {ls : List String} (h : ∀ line ∈ ls, '\n' ∉ line.toList)
    (hblock : ∀ line ∈ ls, opensBlock (codePart line.toList) = false) : Blockless (textOfLines ls).toList := by
  intro raw hraw
  rw [← codePart_trim]
  by_cases hblank : trim raw = []
  · rw [hblank]
    decide
  · have hmem : trim raw ∈ contents (textOfLines ls).toList := by
      rw [contents_eq]
      refine List.mem_flatMap.mpr ⟨raw, hraw, ?_⟩
      rw [content, if_neg hblank]
      exact List.mem_singleton_self _
    rw [contents_textOfLines h] at hmem
    obtain ⟨line, hline, hsame⟩ := List.mem_flatMap.mp hmem
    rw [content] at hsame
    split at hsame
    · cases hsame
    · rw [List.mem_singleton.mp hsame, codePart_trim]
      exact hblock line hline

theorem contents_of_formatted {formatter : SourceFormatter} {ls : List (List Char)}
    (h : ∀ line ∈ ls, '\n' ∉ line ∧ opensBlock (codePart line) = false) {around : Surroundings}
    {texts : List (List Char)}
    (htexts : Formatted formatter (LayoutState.piecesFrom (.outside around) ls) texts) :
    contents texts.flatten = ls.flatMap content := by
  induction ls generalizing around texts with
  | nil =>
    cases htexts
    rfl
  | cons raw ls ih =>
    obtain ⟨⟨hraw, hblock⟩, hls⟩ := List.forall_mem_cons.mp h
    have hopen : ¬ Opens around raw := by
      rintro ⟨-, hopens⟩
      rw [hopens] at hblock
      cases hblock
    rw [LayoutState.piecesFrom_cons, LayoutState.feed] at htexts
    rw [List.flatMap_cons]
    by_cases hblank : trim raw = []
    · rw [content_of_blank hblank, List.nil_append]
      cases hafter : around.afterBlank with
      | true =>
        rw [LayoutState.feedOutside_again hblank hafter] at htexts
        exact ih hls htexts
      | false =>
        rw [LayoutState.feedOutside_blank hblank hafter, List.singleton_append] at htexts
        cases htexts with
        | cons hpiece hrest =>
          cases hpiece
          rw [List.flatten_cons, List.singleton_append, contents_cons_blank (by rfl)]
          exact ih hls hrest
    · rw [LayoutState.feedOutside_text hblank hopen, List.append_assoc] at htexts
      obtain ⟨gap, rest, hgap, htext, hrest⟩ := htexts.gap
      have hgap : AllBlank gap := by
        rcases hgap with rfl | rfl <;> simp [AllBlank, isBlank]
      have htabs := allBlank_replicate_tab (around.depthOf (trim raw))
      have hfeed : '\n' ∉ List.replicate (around.depthOf (trim raw)) '\t' ++ trim raw := by
        rw [List.mem_append, not_or]
        exact ⟨by simp, fun hmem => hraw ((trim_isInfix raw).subset hmem)⟩
      rw [htext, contents_blank_append hgap]
      cases hrest with
      | cons hpiece hrest =>
        cases hpiece
        rw [List.flatten_cons, List.append_assoc, List.singleton_append, contents_feed hfeed, ih hls hrest,
          content_congr ((trim_blank_append htabs _).trans (trim_trim raw))]

theorem contents_layOut {formatter : SourceFormatter} {document out : String} (h : Blockless document.toList)
    (hout : layOut formatter document = .ok out) : contents out.toList = contents document.toList := by
  obtain ⟨texts, htexts, rfl⟩ := exists_of_layOut hout
  rw [String.toList_ofList, contents_trim, contents_eq document.toList]
  exact contents_of_formatted (fun line hline => ⟨not_mem_of_mem_lines hline, h line hline⟩) htexts

end TableCodegen
