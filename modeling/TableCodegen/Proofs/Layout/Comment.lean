import TableCodegen.Proofs.Layout.LineShape
import TableCodegen.Proofs.Layout.Stability

/-!
# Comments and tags of a line

A line is its code and its comment, and in the code some characters stand in tags. Here it is said what
becomes of both when blanks are cut off, when the first letter becomes a capital, and when inert text
comes before a brace.

Results:

* `commentOf_trim`, `tagsOf_trim`: blanks at the ends.
* `commentOf_capitalized`, `tagsOf_capitalized`: capitals.
* `codeFrom_named`, `commentOf_named`, `tagsOf_named`: text before a brace.
-/

namespace TableCodegen

open TableCodegen.Text

/-! ## Definitions -/

/-- The comment of a line: what stands behind the code, from the slashes on. -/
def commentOf (line : List Char) : List Char :=
  line.drop (codeFrom none line).length

/-- The characters that stand in tags, with the marks that end the tags. -/
def inTags : Option Char → List Char → List Char
  | _, [] => []
  | some quote, c :: rest =>
    (if quote = '\x60' then [c] else []) ++ inTags (if c = quote then none else some quote) rest
  | none, c :: rest => inTags (if c = '"' || c = '\x60' then some c else none) rest

/-- The tags of a line, one behind the other. -/
def tagsOf (line : List Char) : List Char :=
  inTags none (codeFrom none line)

/-- The line closes its strings and its tags. -/
def ClosesQuotes (line : List Char) : Prop :=
  quoteAfter none (codeFrom none line) = none

theorem codeFrom_append_commentOf (line : List Char) : codeFrom none line ++ commentOf line = line := by
  obtain ⟨rest, h⟩ := codeFrom_isPrefix none line
  have hdrop : commentOf line = rest := by
    unfold commentOf
    nth_rewrite 2 [← h]
    exact List.drop_left
  rw [hdrop, h]

theorem commentOf_eq {line code comment : List Char} (hcode : codeFrom none line = code)
    (hline : code ++ comment = line) : commentOf line = comment := by
  have h := codeFrom_append_commentOf line
  rw [hcode] at h
  exact List.append_cancel_left (h.trans hline.symm)

/-- Where the code ends within a line, two slashes stand. -/
theorem head?_of_codeFrom {quote : Option Char} {u v : List Char} (h : codeFrom quote (u ++ v) = u) :
    v = [] ∨ quoteAfter quote u = none ∧ ∃ rest, v = '/' :: '/' :: rest := by
  induction u generalizing quote with
  | nil =>
    cases v with
    | nil => exact Or.inl rfl
    | cons c v =>
      right
      rw [List.nil_append] at h
      by_cases hcomment : quote = none ∧ c = '/' ∧ v.head? = some '/'
      · obtain ⟨rfl, rfl, hv⟩ := hcomment
        obtain ⟨rest, rfl⟩ := List.head?_eq_some_iff.mp hv
        exact ⟨rfl, rest, rfl⟩
      · rw [codeFrom_cons fun hq hc hhead => hcomment ⟨hq, hc, hhead⟩] at h
        cases h
  | cons c u ih =>
    have hc : ¬ (quote = none ∧ c = '/' ∧ (u ++ v).head? = some '/') := by
      rintro ⟨rfl, rfl, hhead⟩
      rw [List.cons_append, codeFrom_comment hhead] at h
      cases h
    rw [List.cons_append, codeFrom_cons fun hq hslash hhead => hc ⟨hq, hslash, hhead⟩, List.cons.injEq] at h
    rcases ih h.2 with hv | ⟨hquote, hv⟩
    · exact Or.inl hv
    · refine Or.inr ⟨?_, hv⟩
      rw [← List.singleton_append, quoteAfter_append]
      exact hquote

theorem commentOf_eq_or (line : List Char) : commentOf line = [] ∨ ∃ rest, commentOf line = '/' :: '/' :: rest := by
  have hcode : codeFrom none (codeFrom none line ++ commentOf line) = codeFrom none line := by
    rw [codeFrom_append_commentOf]
  exact (head?_of_codeFrom hcode).imp_right And.right

theorem inTags_append (quote : Option Char) (u v : List Char) :
    inTags quote (u ++ v) = inTags quote u ++ inTags (quoteAfter quote u) v := by
  induction u generalizing quote with
  | nil => cases quote <;> rfl
  | cons c u ih =>
    cases quote with
    | none =>
      rw [List.cons_append, inTags, inTags, ih]
      rfl
    | some quote =>
      rw [List.cons_append, inTags, inTags, ih, List.append_assoc]
      rfl

theorem quoteAfter_allInert {w : List Char} (h : AllInert w) : quoteAfter none w = none := by
  refine quoteAfter_of_not_mem (fun hmem => ?_) (fun hmem => ?_) isQuote_none
  · exact (h _ hmem).quote rfl
  · exact (h _ hmem).tag rfl

theorem inTags_allInert {w : List Char} (h : AllInert w) : inTags none w = [] := by
  induction w with
  | nil => rfl
  | cons c w ih =>
    obtain ⟨hc, hw⟩ := List.forall_mem_cons.mp h
    have hmark : ¬ ((c = '"' || c = '\x60') = true) := by
      rw [Bool.or_eq_true, decide_eq_true_eq, decide_eq_true_eq, not_or]
      exact ⟨hc.quote, hc.tag⟩
    rw [inTags, if_neg hmark, ih hw]

/-! ## Blanks at the ends -/

/-- The code of a line without blanks at its ends: without the blanks before it, and without those behind
it if there is no comment. -/
theorem codeFrom_trim (line : List Char) :
    (codeFrom none (trim line) = trim line ∧ trim line = trim (codeFrom none line) ∧ commentOf line = []) ∨
      codeFrom none (trim line) = trimStart (codeFrom none line) ∧
        trim line = trimStart (codeFrom none line) ++ trimEnd (commentOf line) ∧ commentOf line ≠ [] := by
  rcases commentOf_eq_or line with hnone | ⟨rest, hcomment⟩
  · left
    have hline : codeFrom none line = line := by
      have h := codeFrom_append_commentOf line
      rwa [hnone, List.append_nil] at h
    have hpart : codePart line = trim line := by rw [codePart, hline]
    refine ⟨?_, by rw [hline], hnone⟩
    rw [← hpart, codeFrom_codePart, hpart]
  · right
    obtain ⟨lead, hlead, hcode⟩ := exists_trimStart (codeFrom none line)
    have hmark : isBlank '/' = false := rfl
    have hends : trimEnd (commentOf line) = '/' :: trimEnd ('/' :: rest) := by
      rw [hcomment, trimEnd_cons hmark]
    have htrim : trim line = trimStart (codeFrom none line) ++ trimEnd (commentOf line) := by
      calc trim line = trim (codeFrom none line ++ '/' :: '/' :: rest) := by
            rw [← hcomment, codeFrom_append_commentOf]
        _ = trimStart (codeFrom none line) ++ '/' :: trimEnd ('/' :: rest) := trim_append_cons hmark _ _
        _ = trimStart (codeFrom none line) ++ trimEnd (commentOf line) := by rw [hends]
    have hfront : codeFrom none (trimStart (codeFrom none line) ++ commentOf line) =
        trimStart (codeFrom none line) := by
      have h := codeFrom_append_commentOf line
      nth_rewrite 1 [hcode] at h
      rw [List.append_assoc] at h
      have hlong : codeFrom none (lead ++ (trimStart (codeFrom none line) ++ commentOf line)) =
          lead ++ trimStart (codeFrom none line) := by rw [h, ← hcode]
      rw [codeFrom_blank_append hlead] at hlong
      exact List.append_cancel_left hlong
    refine ⟨?_, htrim, by rw [hcomment]; exact List.cons_ne_nil _ _⟩
    have hhead : (commentOf line).head? = (trimEnd (commentOf line)).head? := by
      rw [hends, hcomment]
      rfl
    have hprefix : trimStart (codeFrom none line) <+:
        codeFrom none (trimStart (codeFrom none line) ++ commentOf line) := by
      rw [hfront]
    obtain ⟨hquote, -⟩ := (head?_of_codeFrom hfront).resolve_left (by rw [hcomment]; simp)
    have hcomments : trimEnd (commentOf line) = '/' :: '/' :: trimEnd rest := by
      rw [hends, trimEnd_cons hmark]
    rw [htrim, codeFrom_append_congr hhead hprefix, hquote, hcomments, codeFrom_comment rfl, List.append_nil]

theorem commentOf_trim (line : List Char) : commentOf (trim line) = trimEnd (commentOf line) := by
  rcases codeFrom_trim line with ⟨hcode, -, hnone⟩ | ⟨hcode, htrim, -⟩
  · rw [hnone]
    exact commentOf_eq hcode (List.append_nil _)
  · exact commentOf_eq hcode htrim.symm

theorem tagsOf_trim {line : List Char} (h : ClosesQuotes line) : tagsOf (trim line) = tagsOf line := by
  have hlead : ∀ {lead : List Char}, AllBlank lead → ∀ cs, inTags none (lead ++ cs) = inTags none cs := by
    intro lead hblank cs
    rw [inTags_append, inTags_allInert hblank.allInert, quoteAfter_allInert hblank.allInert, List.nil_append]
  unfold tagsOf
  rcases codeFrom_trim line with ⟨hcode, htrim, -⟩ | ⟨hcode, -, -⟩
  · obtain ⟨lead, tail, hleadBlank, htail, heq⟩ := exists_trim (codeFrom none line)
    have hclosed : quoteAfter none (trim (codeFrom none line)) = none := by
      unfold ClosesQuotes at h
      rw [heq, quoteAfter_append, quoteAfter_append, quoteAfter_allInert hleadBlank.allInert,
        quoteAfter_of_allBlank htail (isQuote_none.after _)] at h
      exact h
    rw [hcode, htrim]
    nth_rewrite 2 [heq]
    rw [List.append_assoc, hlead hleadBlank, inTags_append, hclosed, inTags_allInert htail.allInert,
      List.append_nil]
  · obtain ⟨lead, hleadBlank, heq⟩ := exists_trimStart (codeFrom none line)
    rw [hcode]
    nth_rewrite 2 [heq]
    rw [hlead hleadBlank]

/-! ## Capitals -/

/-- A capital comes into the code, and changes nothing of what follows. -/
theorem codeFrom_capitalized {line : List Char} (h : codeFrom none line ≠ []) :
    codeFrom none (capitalized line) = capitalized (codeFrom none line) ∧
      capitalized (codeFrom none line) ++ commentOf line = capitalized line ∧
      inTags none (capitalized (codeFrom none line)) = inTags none (codeFrom none line) := by
  cases line with
  | nil => exact absurd rfl h
  | cons c rest =>
    have hcode : codeFrom none (c :: rest) = c :: codeFrom (quoteAfter none [c]) rest := by
      refine codeFrom_cons fun _ hc hrest => h ?_
      rw [hc]
      exact codeFrom_comment hrest
    have hcomment := codeFrom_append_commentOf (c :: rest)
    rw [hcode, List.cons_append, List.cons.injEq] at hcomment
    have hline : Unicode.upper c ++ codeFrom (quoteAfter none [c]) rest ++ commentOf (c :: rest) =
        Unicode.upper c ++ rest := by
      rw [List.append_assoc, hcomment.2]
    by_cases hupper : Unicode.upper c = [c]
    · rw [capitalized_cons, hcode, capitalized_cons, hupper, List.singleton_append, List.singleton_append,
        List.cons_append, hcomment.2]
      exact ⟨hcode, rfl, rfl⟩
    · obtain ⟨hsmall, hcapital⟩ := allInert_upper hupper
      rw [quoteAfter_allInert hsmall] at hcode hline
      rw [hcode, capitalized_cons, capitalized_cons, codeFrom_allInert_append hcapital]
      refine ⟨rfl, hline, ?_⟩
      rw [← List.singleton_append (l := codeFrom none rest), inTags_append, inTags_append,
        inTags_allInert hsmall, inTags_allInert hcapital, quoteAfter_allInert hsmall,
        quoteAfter_allInert hcapital]

theorem commentOf_capitalized {line : List Char} (h : codeFrom none line ≠ []) :
    commentOf (capitalized line) = commentOf line := by
  obtain ⟨hcode, hline, -⟩ := codeFrom_capitalized h
  exact commentOf_eq hcode hline

theorem tagsOf_capitalized {line : List Char} (h : codeFrom none line ≠ []) :
    tagsOf (capitalized line) = tagsOf line := by
  obtain ⟨hcode, -, htags⟩ := codeFrom_capitalized h
  rw [tagsOf, hcode, htags, tagsOf]

/-! ## Text before a brace -/

section

variable {name w : List Char} (hname : codeFrom none name = name) (hquote : quoteAfter none name = none)
  (hw : AllInert w)

include hname hquote hw

/-- Inert text between a name and a brace is code, and the rest of the line is read as without it. -/
theorem codeFrom_named (post : List Char) :
    codeFrom none (name ++ (w ++ '\x7b' :: post)) = name ++ (w ++ '\x7b' :: codeFrom none post) := by
  have hslash : (w ++ '\x7b' :: post).head? ≠ some '/' := by
    cases w with
    | nil => simp
    | cons c w => simpa using (hw c List.mem_cons_self).slash
  have hbrace : codeFrom none ('\x7b' :: post) = '\x7b' :: codeFrom none post := codeFrom_cons (by simp)
  rw [codeFrom_append hname hslash, hquote, codeFrom_allInert_append hw, hbrace]

theorem commentOf_named (post : List Char) : commentOf (name ++ (w ++ '\x7b' :: post)) = commentOf post := by
  refine commentOf_eq (codeFrom_named hname hquote hw post) ?_
  simp [codeFrom_append_commentOf]

theorem tagsOf_named (post : List Char) :
    tagsOf (name ++ (w ++ '\x7b' :: post)) = inTags none name ++ tagsOf post := by
  have hbrace : inTags none ('\x7b' :: codeFrom none post) = inTags none (codeFrom none post) := rfl
  rw [tagsOf, codeFrom_named hname hquote hw, inTags_append, hquote, inTags_append, inTags_allInert hw,
    quoteAfter_allInert hw, hbrace, List.nil_append, tagsOf]

end

end TableCodegen
