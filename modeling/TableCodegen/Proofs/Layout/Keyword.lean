import TableCodegen.Proofs.Layout.Comment

/-!
# The keyword in blocks

Blocks go to the formatter with the keyword before the brace of every structure, and the keyword is taken
out of what comes back. It is put in line by line, but taken out wherever it stands: in comments and in
tags too. And a line that has the keyword anywhere, in its comment for instance, does not get it.

Results:

* `withoutKeyword_eq_self_iff`: the texts that taking out the keyword leaves as they are.
* `passesComment`: what becomes of a comment, whatever the line.
* `blockLine_eq_self_iff`: the lines that open a structure and get no keyword.
* `Faithful.kept`: lines with the keyword at its place, or nowhere, keep their comments and tags.
* `layOut_verbatim_blocks`: the blocks of a document, as the formatter gets them and as they come out.
-/

namespace TableCodegen

open TableCodegen.Text

/-! ## Specification -/

/-- The text has something that is taken out of a block: the keyword between blanks or before empty braces,
or an empty group. -/
def HoldsKeyword (cs : List Char) : Prop :=
  spacedKeyword ++ [' '] <:+: cs ∨ spacedKeyword ++ ['\x7b', '\x7d'] <:+: cs ∨ emptyGroup <:+: cs

/-- The comment of a line comes out at the end of the line as it is without the keyword, that is unchanged
iff it does not hold the keyword. -/
def PassesComment (line : List Char) : Prop :=
  ∃ front kept, (kept = commentOf line ∨ kept = trimEnd (commentOf line)) ∧
    settledLine line = front ++ withoutKeyword kept ∧ (withoutKeyword kept = kept ↔ ¬ HoldsKeyword kept)

/-- The line opens a structure with its first brace. -/
structure OpensAt (line name gap post : List Char) : Prop where
  line_eq : line = name ++ (gap ++ '\x7b' :: post)
  first : '\x7b' ∉ name
  /-- The brace is the only one of the code. -/
  single : '\x7b' ∉ codeFrom none post
  /-- The brace stands in no string and in no tag. -/
  outside : quoteAfter none name = none

/-- The keyword stands nowhere on the line but before the brace that opens a structure; strings and tags
are closed on the line, and the brace stands in none of them. -/
structure Faithful (line : List Char) : Prop where
  closed : ClosesQuotes line
  wording : Plain line ∨ opensBody (codePart line) = true ∧ ∃ name space post, '\x7b' ∉ name ∧
    (space = [' '] ∨ space = [] ∧ post.head? = some '\x7d') ∧
    line = name ++ (spacedKeyword ++ space ++ '\x7b' :: post) ∧ Plain (name ++ ' ' :: '\x7b' :: post)
  brace : opensBody (codePart line) = true → ∀ name post, '\x7b' ∉ name → line = name ++ '\x7b' :: post →
    quoteAfter none name = none ∧ '\x7b' ∉ codeFrom none post

/-- The line opens a structure. It goes to the formatter with the keyword before the brace, which it had
before or which stands in the place of blanks, and it comes out with a blank there. -/
def KeepsBody (line : List Char) : Prop :=
  ∃ name gap space post, OpensAt line name gap post ∧ (AllBlank gap ∨ gap = spacedKeyword ++ space) ∧
    (space = [' '] ∨ space = []) ∧ blockLine line = name ++ (spacedKeyword ++ space ++ '\x7b' :: post) ∧
    settledLine line = name ++ ' ' :: '\x7b' :: post

/-- What becomes of a line of a block. -/
structure Kept (line : List Char) : Prop where
  comment : trimEnd (commentOf (settledLine line)) = trimEnd (commentOf line)
  tags : tagsOf (settledLine line) = tagsOf line
  body : opensBody (codePart line) = true → KeepsBody line
  /-- Any other line stays as it is, or it carries a tag and gets a capital. -/
  other : opensBody (codePart line) = false → settledLine line = line ∨
    '\x60' ∈ codePart line ∧ settledLine line = capitalized (trim line)

/-! ## What taking out the keyword leaves -/

theorem withoutKeyword_eq_self_iff {cs : List Char} : withoutKeyword cs = cs ↔ ¬ HoldsKeyword cs := by
  have hspace : ([' '] : List Char).length < (' ' :: (keyword ++ [' '])).length := by decide
  have hbrace : [' ', '\x7b', '\x7d'].length < (' ' :: (keyword ++ ['\x7b', '\x7d'])).length := by decide
  have hgroup : ([] : List Char).length < ('t' :: "ype ()".toList).length := by decide
  constructor
  · intro h
    -- no step makes the text longer, so that every step keeps its length
    have hfirst := length_replaceCons_le hspace cs
    have hsecond := length_replaceCons_le hbrace (replaceCons ' ' (keyword ++ [' ']) [' '] cs)
    have hthird := length_replaceCons_le hgroup
      (replaceCons ' ' (keyword ++ ['\x7b', '\x7d']) [' ', '\x7b', '\x7d']
        (replaceCons ' ' (keyword ++ [' ']) [' '] cs))
    have htotal : (replaceCons 't' "ype ()".toList [] (replaceCons ' ' (keyword ++ ['\x7b', '\x7d'])
        [' ', '\x7b', '\x7d'] (replaceCons ' ' (keyword ++ [' ']) [' '] cs))).length = cs.length :=
      congrArg List.length h
    have hnoSpace : ¬ spacedKeyword ++ [' '] <:+: cs := not_infix_of_length_replaceCons hspace (by omega)
    have hsame : replaceCons ' ' (keyword ++ [' ']) [' '] cs = cs := replace_of_not_infix hnoSpace [' ']
    rw [hsame] at hsecond hthird htotal
    have hnoBrace : ¬ spacedKeyword ++ ['\x7b', '\x7d'] <:+: cs :=
      not_infix_of_length_replaceCons hbrace (by omega)
    have hsame' : replaceCons ' ' (keyword ++ ['\x7b', '\x7d']) [' ', '\x7b', '\x7d'] cs = cs :=
      replace_of_not_infix hnoBrace [' ', '\x7b', '\x7d']
    rw [hsame'] at htotal
    have hnoGroup : ¬ emptyGroup <:+: cs := not_infix_of_length_replaceCons hgroup htotal
    rintro (hholds | hholds | hholds)
    · exact hnoSpace hholds
    · exact hnoBrace hholds
    · exact hnoGroup hholds
  · intro h
    unfold HoldsKeyword at h
    rw [not_or, not_or] at h
    rw [withoutKeyword_eq, replace_of_not_infix h.1, replace_of_not_infix h.2.1, replace_of_not_infix h.2.2]

/-! ## Comments -/

theorem withoutKeyword_append_comment {comment : List Char}
    (h : comment = [] ∨ ∃ rest, comment = '/' :: '/' :: rest) (front : List Char) :
    withoutKeyword (front ++ comment) = withoutKeyword front ++ withoutKeyword comment := by
  have hslash : IsForeign '/' := by
    unfold IsForeign
    decide
  rcases h with rfl | ⟨rest, rfl⟩
  · rw [List.append_nil, withoutKeyword_nil, List.append_nil]
  · have hcomment : withoutKeyword ([] ++ '/' :: '/' :: rest) = [] ++ '/' :: withoutKeyword ('/' :: rest) := by
      rw [withoutKeyword_append_cons hslash, withoutKeyword_nil]
    rw [List.nil_append, List.nil_append] at hcomment
    rw [withoutKeyword_append_cons hslash, hcomment]

/-- The line goes to the formatter with its comment at its end. -/
theorem exists_blockLine_comment (line : List Char) :
    ∃ front kept, (kept = commentOf line ∨ kept = trimEnd (commentOf line)) ∧ blockLine line = front ++ kept := by
  have hline := codeFrom_append_commentOf line
  cases hbody : opensBody (codePart line) with
  | true =>
    rw [blockLine_body hbody]
    rcases withKeyword_cases line with heq | ⟨name, post, hname, rfl, heq⟩
    · exact ⟨codeFrom none line, commentOf line, Or.inl rfl, by rw [heq, hline]⟩
    · obtain ⟨code, hcode⟩ := prefix_code_of_opensBody hname hbody
      rw [← hcode, List.append_assoc, List.append_assoc] at hline
      have hpost := List.cons.inj (List.append_cancel_left hline)
      refine ⟨trimEnd name ++ (spacedKeyword ++ [' '] ++ '\x7b' :: code), _, Or.inl rfl, ?_⟩
      rw [heq]
      nth_rewrite 1 [← hpost.2]
      simp
  | false =>
    by_cases htag : '\x60' ∈ codePart line
    · rw [blockLine_member hbody htag]
      rcases codeFrom_trim line with ⟨-, -, hnone⟩ | ⟨-, htrim, -⟩
      · exact ⟨capitalized (trim line), [], Or.inl hnone.symm, (List.append_nil _).symm⟩
      · have hmem := mem_codeFrom_of_mem_codePart htag
        have hne : trimStart (codeFrom none line) ≠ [] := by
          intro hnil
          obtain ⟨lead, hlead, heq⟩ := exists_trimStart (codeFrom none line)
          rw [hnil, List.append_nil] at heq
          rw [heq] at hmem
          exact absurd (hlead _ hmem) (by decide)
        obtain ⟨c, rest, hcode⟩ := List.exists_cons_of_ne_nil hne
        refine ⟨capitalized (c :: rest), trimEnd (commentOf line), Or.inr rfl, ?_⟩
        rw [htrim, hcode, List.cons_append, capitalized_cons, capitalized_cons, List.append_assoc]
    · rw [blockLine_other hbody htag]
      exact ⟨codeFrom none line, commentOf line, Or.inl rfl, hline.symm⟩

theorem passesComment (line : List Char) : PassesComment line := by
  obtain ⟨front, kept, hkept, hline⟩ := exists_blockLine_comment line
  refine ⟨withoutKeyword front, kept, hkept, ?_, withoutKeyword_eq_self_iff⟩
  have hcomment : kept = [] ∨ ∃ rest, kept = '/' :: '/' :: rest := by
    have hslash : isBlank '/' = false := rfl
    rcases commentOf_eq_or line with hnone | ⟨rest, hrest⟩
    · rw [hnone] at hkept
      exact Or.inl (hkept.elim id id)
    · right
      rcases hkept with rfl | rfl
      · exact ⟨rest, hrest⟩
      · exact ⟨trimEnd rest, by rw [hrest, trimEnd_cons hslash, trimEnd_cons hslash]⟩
  rw [settledLine, hline, withoutKeyword_append_comment hcomment]

/-- A comment about structures loses a word. -/
example : settledLine "name string // a struct of x".toList = "name string // a of x".toList := by cbv

/-! ## Lines that open a structure -/

/-- The keyword before an empty structure is taken out, and leaves a blank. -/
theorem withoutKeyword_empty {name post : List Char} (h : Plain (name ++ ' ' :: '\x7b' :: '\x7d' :: post)) :
    withoutKeyword (name ++ (spacedKeyword ++ ['\x7b', '\x7d'] ++ post)) =
      name ++ ' ' :: '\x7b' :: '\x7d' :: post := by
  have hfront : Plain name := h.of_infix (List.prefix_append _ _).isInfix
  have hback : Plain post := h.of_infix ⟨name ++ [' ', '\x7b', '\x7d'], [], by simp⟩
  have hspace : ¬ spacedKeyword ++ [' '] <:+: name ++ (spacedKeyword ++ ['\x7b', '\x7d'] ++ post) := by
    intro hw
    have hsplit : name ++ (spacedKeyword ++ ['\x7b', '\x7d'] ++ post) =
        (name ++ spacedKeyword) ++ '\x7b' :: ('\x7d' :: post) := by simp
    have hbrace : '\x7b' ∉ spacedKeyword ++ [' '] := by decide
    rw [hsplit] at hw
    rcases infix_append_cons hw with hw | hw | ⟨before, after, heq, -, -⟩
    · -- before the keyword there is none, and behind it there is no blank
      rw [spacedKeyword_eq] at hw
      rcases infix_append_cons hw with hw | hw | ⟨before, after, heq, hbefore, hafter⟩
      · exact hfront.keyword ((List.prefix_append _ _).isInfix.trans hw)
      · exact absurd (hw.subset List.mem_cons_self) (by decide)
      · have hlast : ' ' ∉ after := fun hmem => absurd (hafter.subset hmem) (by decide)
        rcases List.eq_nil_or_concat after with rfl | ⟨init, c, rfl⟩
        · have hkeyword : before = spacedKeyword := by
            have hconcat : spacedKeyword ++ [' '] = before ++ [' '] := heq
            exact (List.append_cancel_right hconcat).symm
          rw [hkeyword] at hbefore
          exact hfront.keyword hbefore.isInfix
        · rw [List.concat_eq_append, ← List.cons_append, ← List.append_assoc] at heq
          have hc := List.append_inj' heq rfl
          rw [List.concat_eq_append, ← List.singleton_inj.mp hc.2] at hlast
          exact hlast (List.mem_append_right init List.mem_cons_self)
    · exact hback.keyword ((List.prefix_append _ _).isInfix.trans
        (infix_of_infix_append_right (u := ['\x7d']) hw (by decide)))
    · rw [heq] at hbrace
      exact hbrace (List.mem_append_right before List.mem_cons_self)
  have hbraces : ¬ spacedKeyword ++ ['\x7b', '\x7d'] <:+: post :=
    fun hw => hback.keyword ((List.prefix_append _ _).isInfix.trans hw)
  have hgroup : ¬ emptyGroup <:+: name ++ ([' ', '\x7b', '\x7d'] ++ post) := h.group
  rw [withoutKeyword_eq, replace_of_not_infix hspace, replace_keyword_append hfront.keyword,
    replace_of_not_infix hbraces, replace_of_not_infix hgroup]
  rfl

/-- A line that opens a structure goes to the formatter as it is iff it has the keyword, be it in its
comment only. -/
theorem blockLine_eq_self_iff {line : List Char} (hbody : opensBody (codePart line) = true) :
    blockLine line = line ↔ spacedKeyword <:+: line := by
  rw [blockLine_body hbody]
  constructor
  · intro h
    by_contra hkeyword
    obtain ⟨name, post, rfl, hname⟩ :=
      List.eq_append_cons_of_mem (mem_of_codePart (brace_mem_of_opensBody hbody))
    rw [withKeyword_append hname hkeyword] at h
    exact hkeyword ⟨trimEnd name, [' '] ++ '\x7b' :: post, by rw [← h]; simp⟩
  · intro h
    rw [withKeyword, if_pos (contains_iff.mpr h)]

/-- A line without the keyword gets it before its first brace. -/
theorem Plain.keepsBody {name post : List Char} (h : Plain (name ++ '\x7b' :: post))
    (hbody : opensBody (codePart (name ++ '\x7b' :: post)) = true) (hname : '\x7b' ∉ name)
    (hsingle : '\x7b' ∉ codeFrom none post) (hquote : quoteAfter none name = none) :
    KeepsBody (name ++ '\x7b' :: post) := by
  obtain ⟨tail, htail, heq⟩ := exists_trimEnd name
  have houtside : quoteAfter none (trimEnd name) = none := by
    rw [heq, quoteAfter_append, quoteAfter_of_allBlank htail (isQuote_none.after _)] at hquote
    exact hquote
  have hline : name ++ '\x7b' :: post = trimEnd name ++ (tail ++ '\x7b' :: post) := by
    rw [← List.append_assoc, ← heq]
  have hfirst : '\x7b' ∉ trimEnd name := fun hmem => hname ((trimEnd_isPrefix name).subset hmem)
  refine ⟨trimEnd name, tail, [' '], post, ⟨hline, hfirst, hsingle, houtside⟩, Or.inl htail, Or.inl rfl, ?_,
    settledLine_body hname h hbody⟩
  rw [blockLine_body hbody, withKeyword_append hname h.keyword]

/-- A line with the keyword before its first brace keeps it on its way to the formatter. -/
theorem keepsBody_keyword {name space post : List Char} (hname : '\x7b' ∉ name)
    (hspace : space = [' '] ∨ space = [] ∧ post.head? = some '\x7d')
    (hplain : Plain (name ++ ' ' :: '\x7b' :: post))
    (hbody : opensBody (codePart (name ++ (spacedKeyword ++ space ++ '\x7b' :: post))) = true)
    (hsingle : '\x7b' ∉ codeFrom none post)
    (hquote : quoteAfter none (name ++ (spacedKeyword ++ space)) = none) :
    KeepsBody (name ++ (spacedKeyword ++ space ++ '\x7b' :: post)) := by
  have hinert : AllInert (spacedKeyword ++ space) := allInert_keyword_append (hspace.imp_right And.left)
  have houtside : quoteAfter none name = none := by
    rw [quoteAfter_append, quoteAfter_of_not_mem (fun hmem => (hinert _ hmem).quote rfl)
      (fun hmem => (hinert _ hmem).tag rfl) (isQuote_none.after _)] at hquote
    exact hquote
  have hinfix : spacedKeyword <:+: name ++ (spacedKeyword ++ space ++ '\x7b' :: post) :=
    ⟨name, space ++ '\x7b' :: post, by simp⟩
  have hblock : blockLine (name ++ (spacedKeyword ++ space ++ '\x7b' :: post)) =
      name ++ (spacedKeyword ++ space ++ '\x7b' :: post) := (blockLine_eq_self_iff hbody).mpr hinfix
  refine ⟨name, spacedKeyword ++ space, space, post, ⟨rfl, hname, hsingle, houtside⟩, Or.inr rfl,
    hspace.imp_right And.left, hblock, ?_⟩
  rw [settledLine, hblock]
  rcases hspace with rfl | ⟨rfl, hpost⟩
  · exact withoutKeyword_named hplain
  · obtain ⟨rest, rfl⟩ := List.head?_eq_some_iff.mp hpost
    have hshape : name ++ (spacedKeyword ++ [] ++ '\x7b' :: '\x7d' :: rest) =
        name ++ (spacedKeyword ++ ['\x7b', '\x7d'] ++ rest) := by simp
    rw [hshape]
    exact withoutKeyword_empty hplain

theorem Faithful.keepsBody {line : List Char} (h : Faithful line) (hbody : opensBody (codePart line) = true) :
    KeepsBody line := by
  rcases h.wording with hplain | ⟨-, name, space, post, hname, hspace, rfl, hplain⟩
  · obtain ⟨name, post, rfl, hname⟩ :=
      List.eq_append_cons_of_mem (mem_of_codePart (brace_mem_of_opensBody hbody))
    obtain ⟨hquote, hsingle⟩ := h.brace hbody name post hname rfl
    exact hplain.keepsBody hbody hname hsingle hquote
  · have hinert : AllInert (spacedKeyword ++ space) := allInert_keyword_append (hspace.imp_right And.left)
    have hfirst : '\x7b' ∉ name ++ (spacedKeyword ++ space) := by
      intro hmem
      exact (List.mem_append.mp hmem).elim hname hinert.not_mem_brace
    obtain ⟨hquote, hsingle⟩ := h.brace hbody (name ++ (spacedKeyword ++ space)) post hfirst (by simp)
    exact keepsBody_keyword hname hspace hplain hbody hsingle hquote

/-- The text before the gap is code on its own. -/
theorem OpensAt.codeFrom_name {line name gap post : List Char} (h : OpensAt line name gap post)
    (hgap : '\x7b' ∉ gap) (hbody : opensBody (codePart line) = true) : codeFrom none name = name := by
  have hfirst : '\x7b' ∉ name ++ gap := by
    intro hmem
    exact (List.mem_append.mp hmem).elim h.first hgap
  have hsplit : line = (name ++ gap) ++ '\x7b' :: post := by rw [h.line_eq, List.append_assoc]
  rw [hsplit] at hbody
  have hcode := prefix_code_of_opensBody hfirst hbody
  refine codeFrom_eq_self_of_isPrefix (v := gap ++ '\x7b' :: post) ?_
  rw [← List.append_assoc]
  exact (List.prefix_append name (gap ++ ['\x7b'])).trans (by rwa [← List.append_assoc])

/-- **Lines with the keyword at its place, or nowhere, keep their comments and tags.** -/
theorem Faithful.kept {line : List Char} (h : Faithful line) : Kept line := by
  cases hbody : opensBody (codePart line) with
  | true =>
    obtain ⟨name, gap, space, post, hopens, hgap, hspace, -, hsettled⟩ := h.keepsBody hbody
    have hinert : AllInert gap := by
      rcases hgap with hblank | rfl
      · exact hblank.allInert
      · exact allInert_keyword_append hspace
    have hblank : AllInert [' '] := allInert_space
    have hname := hopens.codeFrom_name hinert.not_mem_brace hbody
    have hout : settledLine line = name ++ ([' '] ++ '\x7b' :: post) := hsettled
    refine ⟨?_, ?_, fun _ => h.keepsBody hbody, fun hfalse => ?_⟩
    · rw [hout, hopens.line_eq, commentOf_named hname hopens.outside hblank,
        commentOf_named hname hopens.outside hinert]
    · rw [hout, hopens.line_eq, tagsOf_named hname hopens.outside hblank,
        tagsOf_named hname hopens.outside hinert]
    · rw [hbody] at hfalse
      cases hfalse
  | false =>
    have hplain : Plain line := by
      rcases h.wording with hplain | ⟨htrue, -⟩
      · exact hplain
      · rw [hbody] at htrue
        cases htrue
    by_cases htag : '\x60' ∈ codePart line
    · have hsettled := settledLine_member hplain hbody htag
      have hne : codeFrom none (trim line) ≠ [] := by
        intro hnil
        have hmem : '\x60' ∈ codePart (trim line) := by rwa [codePart_trim]
        rw [codePart, hnil] at hmem
        cases hmem
      refine ⟨?_, ?_, fun htrue => ?_, fun _ => Or.inr ⟨htag, hsettled⟩⟩
      · obtain ⟨tail, htail, heq⟩ := exists_trimEnd (commentOf line)
        rw [hsettled, commentOf_capitalized hne, commentOf_trim]
        nth_rewrite 2 [heq]
        rw [trimEnd_append_blank htail]
      · rw [hsettled, tagsOf_capitalized hne, tagsOf_trim h.closed]
      · rw [hbody] at htrue
        cases htrue
    · have hsettled := settledLine_other hplain hbody htag
      refine ⟨by rw [hsettled], by rw [hsettled], fun htrue => ?_, fun _ => Or.inl hsettled⟩
      rw [hbody] at htrue
      cases htrue

/-- A line that gets the keyword, and keeps its comment. -/
example : Faithful "User \x7b // a user".toList where
  closed := by
    unfold ClosesQuotes
    decide
  wording := Or.inl ⟨contains_eq_false_iff.mp (by decide), contains_eq_false_iff.mp (by decide)⟩
  brace _ name post _ heq := by
    have hsplit : "User ".toList ++ '\x7b' :: " // a user".toList = name ++ '\x7b' :: post := heq
    obtain ⟨rfl, -, rfl⟩ := (List.append_cons_inj_of_notMem (by decide) (by decide)).mp hsplit
    decide

/-! ## Blocks -/

/-- The lines of a block stand in the text as they come out. -/
theorem Laid.exists_rows {around : Surroundings} {parts : List Part} {pieces : List Piece}
    {rows : List (List Char)} {final : LayoutState} (h : Laid around parts pieces rows final)
    {first : List Char} {rest : List (List Char)} (hmem : Part.block first rest ∈ parts) :
    (blockLines first rest).map settledLine <:+: rows := by
  induction h with
  | done around => cases hmem
  | again _ _ _ ih => exact ih ((List.mem_cons.mp hmem).resolve_left (by simp))
  | blank _ _ _ ih =>
    exact (ih ((List.mem_cons.mp hmem).resolve_left (by simp))).trans (List.suffix_cons _ _).isInfix
  | text _ _ _ ih =>
    have hrest := ih ((List.mem_cons.mp hmem).resolve_left (by simp))
    exact hrest.trans ((List.suffix_cons _ _).trans (List.suffix_append _ _)).isInfix
  | block _ _ _ ih =>
    rcases List.mem_cons.mp hmem with heq | hmem
    · obtain ⟨rfl, rfl⟩ := Part.block.inj heq
      exact ⟨_, _, rfl⟩
    · exact (ih hmem).trans (List.suffix_append _ _).isInfix
  | unclosed _ _ =>
    obtain ⟨rfl, rfl⟩ := Part.block.inj (List.mem_singleton.mp hmem)
    exact (List.suffix_append _ _).isInfix

/-- **Blocks.** When the formatter changes nothing, every line of every block of a document comes out by
itself: its comment without the keyword, wherever the comment holds it, and, when the keyword stands
nowhere on the line but at its place, with its comment and its tags as they were. A line that opens
a structure goes to the formatter without a new keyword iff it has the keyword somewhere. -/
theorem layOut_verbatim_blocks (document : String) :
    ∃ (parts : List Part) (rows : List (List Char)), parts.flatMap Part.lines = lines document.toList ∧
      layOut .verbatim document = .ok (String.ofList (trim (blockText rows))) ∧
      blocks document = parts.filterMap Part.source? ∧
      ∀ first rest, Part.block first rest ∈ parts →
        (blockLines first rest).map settledLine <:+: rows ∧
          ∀ line ∈ blockLines first rest, PassesComment line ∧
            (opensBody (codePart line) = true → (blockLine line = line ↔ spacedKeyword <:+: line)) ∧
            (Faithful line → Kept line) := by
  obtain ⟨parts, rows, hparts, hlaid⟩ := exists_laid {} (lines document.toList)
  have htext : (pieces document.toList).flatMap Piece.settledText = blockText rows := hlaid.text_eq
  have hblocks : blocks document = parts.filterMap Part.source? := (blocks_eq document).trans hlaid.sources_eq
  refine ⟨parts, rows, hparts, by rw [layOut_verbatim, htext], hblocks, fun first rest hmem => ?_⟩
  exact ⟨hlaid.exists_rows hmem, fun line _ => ⟨passesComment line, blockLine_eq_self_iff, Faithful.kept⟩⟩

end TableCodegen
