import TableCodegen.Layout.Block
import TableCodegen.Proofs.Text.Blank

/-!
# The code of a line

`codePart` cuts the comment off a line: it reads the line from the left, and remembers the mark of the
quoted part it is in. Here the line is cut at a place of its code, so that what stands before the place and
what stands behind it can be changed apart.

Results:

* `codeFrom_append_congr`, `codeFrom_append`: reading goes on behind a text that has no comment.
* `codePart_trim`: blanks at the ends of a line do not matter.
* `isLoneCloser_append`: a code with another character is no lone closer.
-/

namespace TableCodegen

open TableCodegen.Text

/-! ## Quoted parts -/

/-- The mark of the quoted part that the end of a text is in; comments are not looked for. -/
def quoteAfter : Option Char → List Char → Option Char
  | quote, [] => quote
  | some quote, c :: rest => quoteAfter (if c = quote then none else some quote) rest
  | none, c :: rest => quoteAfter (if c = '"' || c = '\x60' then some c else none) rest

theorem quoteAfter_append (quote : Option Char) (u v : List Char) :
    quoteAfter quote (u ++ v) = quoteAfter (quoteAfter quote u) v := by
  induction u generalizing quote with
  | nil => cases v <;> rfl
  | cons c u ih => cases quote <;> exact ih _

/-- The marks that a line can be in. -/
def IsQuote (quote : Option Char) : Prop :=
  quote = none ∨ quote = some '"' ∨ quote = some '\x60'

theorem isQuote_none : IsQuote none := Or.inl rfl

theorem IsQuote.step {quote : Option Char} (h : IsQuote quote) (c : Char) :
    IsQuote (quoteAfter quote [c]) := by
  rcases h with rfl | rfl | rfl
  · by_cases hquote : c = '"'
    · subst hquote
      exact Or.inr (Or.inl rfl)
    · by_cases htag : c = '\x60'
      · subst htag
        exact Or.inr (Or.inr rfl)
      · exact Or.inl (by simp [quoteAfter, hquote, htag])
  · by_cases hquote : c = '"'
    · exact Or.inl (by simp [quoteAfter, hquote])
    · exact Or.inr (Or.inl (by simp [quoteAfter, hquote]))
  · by_cases htag : c = '\x60'
    · exact Or.inl (by simp [quoteAfter, htag])
    · exact Or.inr (Or.inr (by simp [quoteAfter, htag]))

theorem IsQuote.after {quote : Option Char} (h : IsQuote quote) (u : List Char) :
    IsQuote (quoteAfter quote u) := by
  induction u generalizing quote with
  | nil => cases quote <;> exact h
  | cons c u ih =>
    rw [← List.singleton_append, quoteAfter_append]
    exact ih (h.step c)

/-- A text without quotation marks stays in the quoted part, or outside. -/
theorem quoteAfter_of_not_mem {u : List Char} (hquote : '"' ∉ u) (htag : '\x60' ∉ u)
    {quote : Option Char} (h : IsQuote quote) : quoteAfter quote u = quote := by
  induction u with
  | nil => cases quote <;> rfl
  | cons c u ih =>
    rw [List.mem_cons, not_or] at hquote htag
    have hc : quoteAfter quote [c] = quote := by
      rcases h with rfl | rfl | rfl
      · simp [quoteAfter, Ne.symm hquote.1, Ne.symm htag.1]
      · simp [quoteAfter, Ne.symm hquote.1]
      · simp [quoteAfter, Ne.symm htag.1]
    rw [← List.singleton_append, quoteAfter_append, hc, ih hquote.2 htag.2]

theorem not_mem_of_allBlank {u : List Char} (h : AllBlank u) {c : Char} (hc : isBlank c = false) :
    c ∉ u := by
  intro hmem
  rw [h c hmem] at hc
  cases hc

theorem quoteAfter_of_allBlank {u : List Char} (hu : AllBlank u) {quote : Option Char}
    (h : IsQuote quote) : quoteAfter quote u = quote :=
  quoteAfter_of_not_mem (not_mem_of_allBlank hu rfl) (not_mem_of_allBlank hu rfl) h

/-! ## Cuts -/

/-- A character that starts no comment. -/
theorem codeFrom_cons {quote : Option Char} {c : Char} {rest : List Char}
    (h : quote = none → c = '/' → rest.head? ≠ some '/') :
    codeFrom quote (c :: rest) = c :: codeFrom (quoteAfter quote [c]) rest := by
  cases quote with
  | none =>
    have hc : ¬ ((c = '/' && rest.head? = some '/') = true) := by simpa using h rfl
    rw [codeFrom, if_neg hc]
    rfl
  | some quote => rfl

theorem codeFrom_comment {rest : List Char} (h : rest.head? = some '/') :
    codeFrom none ('/' :: rest) = [] := by
  rw [codeFrom, if_pos (by simp [h])]

theorem codeFrom_isPrefix (quote : Option Char) (line : List Char) : codeFrom quote line <+: line := by
  induction line generalizing quote with
  | nil => cases quote <;> exact List.prefix_rfl
  | cons c rest ih =>
    by_cases h : quote = none ∧ c = '/' ∧ rest.head? = some '/'
    · obtain ⟨rfl, rfl, hrest⟩ := h
      rw [codeFrom_comment hrest]
      exact List.nil_prefix
    · rw [codeFrom_cons fun hq hc hrest => h ⟨hq, hc, hrest⟩]
      exact List.cons_prefix_cons.mpr ⟨rfl, ih _⟩

/-- Behind a part of the code, reading goes on with the mark of its end; of what follows, only the first
character matters. -/
theorem codeFrom_append_congr {quote : Option Char} {u v w : List Char} (hhead : v.head? = w.head?)
    (h : u <+: codeFrom quote (u ++ v)) :
    codeFrom quote (u ++ w) = u ++ codeFrom (quoteAfter quote u) w := by
  induction u generalizing quote with
  | nil => cases quote <;> rfl
  | cons c u ih =>
    rw [List.cons_append] at h ⊢
    have hsame : (u ++ v).head? = (u ++ w).head? := by
      cases u with
      | nil => exact hhead
      | cons d u => rfl
    have hc : quote = none → c = '/' → (u ++ v).head? ≠ some '/' := by
      rintro rfl rfl hrest
      rw [codeFrom_comment hrest] at h
      simp at h
    rw [codeFrom_cons hc, List.cons_prefix_cons] at h
    rw [hsame] at hc
    rw [codeFrom_cons hc, ih h.2, ← quoteAfter_append]
    rfl

theorem codeFrom_append_of_isPrefix {quote : Option Char} {u v : List Char}
    (h : u <+: codeFrom quote (u ++ v)) :
    codeFrom quote (u ++ v) = u ++ codeFrom (quoteAfter quote u) v :=
  codeFrom_append_congr rfl h

/-- What is read as code in front of a text is read as code by itself. -/
theorem codeFrom_eq_self_of_isPrefix {quote : Option Char} {u v : List Char}
    (h : u <+: codeFrom quote (u ++ v)) : codeFrom quote u = u := by
  induction u generalizing quote with
  | nil => cases quote <;> rfl
  | cons c u ih =>
    rw [List.cons_append] at h
    have hc : quote = none → c = '/' → (u ++ v).head? ≠ some '/' := by
      rintro rfl rfl hrest
      rw [codeFrom_comment hrest] at h
      simp at h
    have hc' : quote = none → c = '/' → u.head? ≠ some '/' := by
      intro hq hslash
      cases u with
      | nil => simp
      | cons d u => exact hc hq hslash
    rw [codeFrom_cons hc, List.cons_prefix_cons] at h
    rw [codeFrom_cons hc', ih h.2]

/-- Reading goes on behind a text without a comment, unless a comment starts across its end. -/
theorem codeFrom_append {quote : Option Char} {u v : List Char} (hu : codeFrom quote u = u)
    (hslash : v.head? ≠ some '/') :
    codeFrom quote (u ++ v) = u ++ codeFrom (quoteAfter quote u) v := by
  induction u generalizing quote with
  | nil => cases quote <;> rfl
  | cons c u ih =>
    have hc : quote = none → c = '/' → u.head? ≠ some '/' := by
      rintro rfl rfl hrest
      rw [codeFrom_comment hrest] at hu
      simp at hu
    have hc' : quote = none → c = '/' → (u ++ v).head? ≠ some '/' := by
      intro hq hcomment
      cases u with
      | nil => exact hslash
      | cons d u => exact hc hq hcomment
    rw [codeFrom_cons hc, List.cons.injEq] at hu
    rw [List.cons_append, codeFrom_cons hc', ih hu.2, ← quoteAfter_append]
    rfl

/-- A text without a slash has no comment. -/
theorem codeFrom_of_not_mem {u : List Char} (h : '/' ∉ u) (quote : Option Char) :
    codeFrom quote u = u := by
  induction u generalizing quote with
  | nil => cases quote <;> rfl
  | cons c u ih =>
    rw [List.mem_cons, not_or] at h
    rw [codeFrom_cons fun _ hc => absurd hc.symm h.1, ih h.2]

/-! ## Blanks at the ends -/

theorem codeFrom_blank_append {lead : List Char} (h : AllBlank lead) (line : List Char) :
    codeFrom none (lead ++ line) = lead ++ codeFrom none line := by
  induction lead with
  | nil => rfl
  | cons c lead ih =>
    have hc := h.of_cons
    have hslash : c ≠ '/' := by
      rintro rfl
      exact absurd hc.1 (by decide)
    have hquote : quoteAfter none [c] = none :=
      quoteAfter_of_allBlank (by simp [AllBlank, hc.1]) isQuote_none
    rw [List.cons_append, codeFrom_cons fun _ hcomment => absurd hcomment hslash, hquote, ih hc.2,
      List.cons_append]

/-- Blanks at the end are code, or go with the comment. -/
theorem codeFrom_append_blank {tail : List Char} (h : AllBlank tail) (quote : Option Char)
    (line : List Char) :
    codeFrom quote (line ++ tail) = codeFrom quote line ++ tail ∨
      codeFrom quote (line ++ tail) = codeFrom quote line := by
  have hslash : '/' ∉ tail := not_mem_of_allBlank h rfl
  induction line generalizing quote with
  | nil =>
    left
    rw [List.nil_append, codeFrom_of_not_mem hslash]
    cases quote <;> rfl
  | cons c line ih =>
    have hhead : (line ++ tail).head? = some '/' ↔ line.head? = some '/' := by
      cases line with
      | nil =>
        refine ⟨fun hmem => absurd (List.mem_of_mem_head? hmem) hslash, fun hnil => ?_⟩
        simp at hnil
      | cons d line => rfl
    by_cases hcomment : quote = none ∧ c = '/' ∧ line.head? = some '/'
    · obtain ⟨rfl, rfl, hrest⟩ := hcomment
      right
      rw [List.cons_append, codeFrom_comment hrest, codeFrom_comment (hhead.mpr hrest)]
    · have hc : quote = none → c = '/' → line.head? ≠ some '/' :=
        fun hq hslash hrest => hcomment ⟨hq, hslash, hrest⟩
      rw [List.cons_append, codeFrom_cons hc,
        codeFrom_cons fun hq hslash => mt hhead.mp (hc hq hslash)]
      rcases ih (quoteAfter quote [c]) with heq | heq
      · left
        rw [heq, List.cons_append]
      · right
        rw [heq]

theorem codePart_append_blank {tail : List Char} (h : AllBlank tail) (line : List Char) :
    codePart (line ++ tail) = codePart line := by
  unfold codePart
  rcases codeFrom_append_blank h none line with heq | heq
  · rw [heq, trim_append_blank h]
  · rw [heq]

theorem codePart_blank_append {lead : List Char} (h : AllBlank lead) (line : List Char) :
    codePart (lead ++ line) = codePart line := by
  unfold codePart
  rw [codeFrom_blank_append h, trim_blank_append h]

@[simp] theorem codePart_trim (line : List Char) : codePart (trim line) = codePart line := by
  obtain ⟨lead, tail, hlead, htail, h⟩ := exists_trim line
  calc codePart (trim line) = codePart (lead ++ (trim line ++ tail)) := by
        rw [codePart_blank_append hlead, codePart_append_blank htail]
    _ = codePart line := by rw [← List.append_assoc, ← h]

/-! ## Lone closers -/

/-- A code with another character than a closing bracket is no lone closer. -/
theorem isLoneCloser_append {m : Char} (hcurly : m ≠ '\x7d') (hround : m ≠ ')') (x rest : List Char) :
    isLoneCloser (x ++ m :: rest) = false := by
  rw [← Bool.not_eq_true]
  unfold isLoneCloser
  rw [Bool.or_eq_true, decide_eq_true_eq, decide_eq_true_eq]
  have hmem : m ∈ x ++ m :: rest := List.mem_append_right x List.mem_cons_self
  rintro (h | h)
  · rw [h] at hmem
    exact hcurly (List.mem_singleton.mp hmem)
  · rw [h] at hmem
    exact hround (List.mem_singleton.mp hmem)

end TableCodegen
