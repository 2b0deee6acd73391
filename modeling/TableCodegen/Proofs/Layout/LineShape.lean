import TableCodegen.Proofs.Layout.LineSides
import TableCodegen.Proofs.Layout.Outline

/-!
# Lines and the brackets they open

The layout goes by the shape of a line: it looks at the last character of the code, and at codes that are
one closing bracket. Here shapes are compared with the brackets that are read, on lines that close their
own strings and tags and open at most one bracket, at their end.

Results:

* `lineSides_codePart`: the brackets of a line are those of its code, when no string holds a backslash.
* `Balanced.nesting_eq`, `Balanced.nesting_isPrefix`: a balanced word closes what it opens, and no more.
* `StructuredLine.shape_cases`: what the shape of a line says of its brackets.
* `ShapedLine`: the lines of which the shape says that much.
-/

namespace TableCodegen

open TableCodegen.Text

/-! ## Specification -/

/-- No backslash of the line stands in a string. -/
def NoEscape (state : ScanState) (line : List Char) : Prop :=
  ∀ before after, line = before ++ '\\' :: after → ∀ b, lineEnd state before ≠ .string b

/-- A code that closes one bracket and is nothing else, or pairs its brackets up, or leaves one open at
its end. -/
inductive CodeShape : List Char → Prop where
  | closer {code : List Char} (h : code = [')'] ∨ code = ['\x7d']) : CodeShape code
  | balanced {code : List Char} (h : Balanced (lineSides .code code)) : CodeShape code
  | opener {front : List Char} {c : Char} {b : Bracket} (hc : bracketOf? c = some (b, true))
      (h : Balanced (lineSides .code front)) : CodeShape (front ++ [c])

/-- A line whose brackets can be seen by its shape. -/
structure StructuredLine (line : List Char) : Prop where
  /-- Strings and tags are closed on the line. -/
  closed : lineEnd .code line = .code
  noEscape : NoEscape .code line
  shape : CodeShape (codePart line)

/-- The brackets that a word opens, less those that it closes. -/
def nesting : List (Bracket × Bool) → Int
  | [] => 0
  | side :: word => (if side.2 then 1 else -1) + nesting word

@[simp] theorem nesting_nil : nesting [] = 0 := rfl

@[simp] theorem nesting_append (u v : List (Bracket × Bool)) : nesting (u ++ v) = nesting u + nesting v := by
  induction u with
  | nil => rw [List.nil_append, nesting_nil, Int.zero_add]
  | cons side u ih => rw [List.cons_append, nesting, nesting, ih, Int.add_assoc]

@[simp] theorem nesting_opener (b : Bracket) : nesting [(b, true)] = 1 := rfl

@[simp] theorem nesting_closer (b : Bracket) : nesting [(b, false)] = -1 := rfl

/-! ## Balanced words -/

theorem Balanced.nesting_eq {word : List (Bracket × Bool)} (h : Balanced word) : nesting word = 0 := by
  induction h with
  | nil => rfl
  | @enclosed b word _ ih =>
    rw [← List.singleton_append, nesting_append, nesting_append, nesting_opener, nesting_closer, ih]
    rfl
  | append _ _ ihu ihv => rw [nesting_append, ihu, ihv]; rfl

/-- No part of a balanced word from its start on closes more than it opens. -/
theorem Balanced.nesting_isPrefix {word : List (Bracket × Bool)} (h : Balanced word) :
    ∀ u, u <+: word → 0 ≤ nesting u := by
  induction h with
  | nil =>
    intro u hu
    rw [List.prefix_nil.mp hu]
    exact Int.le_refl 0
  | @enclosed b word inner ih =>
    intro u hu
    rcases List.prefix_concat_iff.mp hu with rfl | hu
    · exact Int.le_of_eq (Balanced.enclosed b inner).nesting_eq.symm
    · rcases List.prefix_cons_iff.mp hu with rfl | ⟨u, rfl, hu⟩
      · exact Int.le_refl 0
      · have hrest := ih u (List.cons_prefix_cons.mp hu).2
        rw [← List.singleton_append, nesting_append, nesting_opener]
        omega
  | @append x y hx _ ihx ihy =>
    intro u hu
    obtain ⟨rest, hu⟩ := hu
    rcases List.append_eq_append_iff.mp hu with ⟨t, rfl, -⟩ | ⟨t, rfl, hy⟩
    · exact ihx u (List.prefix_append u t)
    · rw [nesting_append, hx.nesting_eq, Int.zero_add]
      exact ihy t ⟨rest, hy.symm⟩

theorem not_balanced_closer (b : Bracket) : ¬ Balanced [(b, false)] := by
  intro h
  have := h.nesting_eq
  simp at this

theorem not_balanced_concat_opener (b : Bracket) (word : List (Bracket × Bool)) :
    ¬ Balanced (word ++ [(b, true)]) := by
  intro h
  have htotal := h.nesting_eq
  have hfront := h.nesting_isPrefix word (List.prefix_append _ _)
  rw [nesting_append, nesting_opener] at htotal
  omega

/-! ## The two readers of a line

`codeFrom` looks for the end of the code with the mark of a quoted part, `lineSides` looks for brackets with
a state. They differ in backslashes only. -/

/-- The state of a mark. -/
def ofQuote : Option Char → ScanState
  | none => .code
  | some c => if c = '"' then .string false else .tag

theorem ofQuote_eq_code_iff {quote : Option Char} : ofQuote quote = .code ↔ quote = none := by
  cases quote with
  | none => simp [ofQuote]
  | some c => by_cases hc : c = '"' <;> simp [ofQuote, hc]

theorem NoEscape.next {state : ScanState} {c : Char} {rest : List Char} (h : NoEscape state (c :: rest))
    (hs : state.startsComment c rest = false) : NoEscape (state.next c) rest := by
  intro before after heq b
  have hbefore : state.startsComment c before = false := by
    cases before with
    | nil => simp [ScanState.startsComment]
    | cons d before =>
      rw [heq] at hs
      exact hs
  have := h (c :: before) after (by rw [heq]; rfl) b
  rwa [lineEnd, hbefore, if_neg Bool.false_ne_true] at this

/-- Without a backslash in a string, a character changes the state as it changes the mark. -/
theorem next_ofQuote {quote : Option Char} (hquote : IsQuote quote) {c : Char} {rest : List Char}
    (h : NoEscape (ofQuote quote) (c :: rest)) :
    (ofQuote quote).next c = ofQuote (quoteAfter quote [c]) := by
  have hescape : c = '\\' → ∀ b, ofQuote quote ≠ .string b := by
    rintro rfl b
    exact h [] rest rfl b
  rcases hquote with rfl | rfl | rfl
  · by_cases htag : c = '\x60'
    · subst htag
      rfl
    · by_cases hstring : c = '"'
      · subst hstring
        rfl
      · simp [ofQuote, ScanState.next, quoteAfter, tagMark, htag, hstring]
  · have hbackslash : c ≠ '\\' := fun hc => hescape hc false rfl
    by_cases hstring : c = '"'
    · subst hstring
      rfl
    · simp [ofQuote, ScanState.next, quoteAfter, hstring, hbackslash]
  · by_cases htag : c = '\x60'
    · subst htag
      rfl
    · have hstate : ofQuote (some '\x60') = .tag := rfl
      simp [hstate, ScanState.next, quoteAfter, tagMark, htag]

theorem startsComment_ofQuote {quote : Option Char} {c : Char} {rest : List Char} :
    (ofQuote quote).startsComment c rest = true ↔ quote = none ∧ c = '/' ∧ rest.head? = some '/' := by
  unfold ScanState.startsComment
  rw [Bool.and_eq_true, Bool.and_eq_true, decide_eq_true_eq, decide_eq_true_eq, decide_eq_true_eq,
    ofQuote_eq_code_iff, and_assoc]

/-- What is behind the code of a line holds no bracket. -/
theorem lineSides_codeFrom {quote : Option Char} (hquote : IsQuote quote) {line : List Char}
    (h : NoEscape (ofQuote quote) line) :
    lineSides (ofQuote quote) (codeFrom quote line) = lineSides (ofQuote quote) line ∧
      lineEnd (ofQuote quote) (codeFrom quote line) = lineEnd (ofQuote quote) line := by
  induction line generalizing quote with
  | nil => cases quote <;> exact ⟨rfl, rfl⟩
  | cons c rest ih =>
    by_cases hcomment : quote = none ∧ c = '/' ∧ rest.head? = some '/'
    · have hs := startsComment_ofQuote.mpr hcomment
      rw [lineSides, lineEnd, if_pos hs, if_pos hs]
      obtain ⟨rfl, rfl, hrest⟩ := hcomment
      rw [codeFrom_comment hrest]
      exact ⟨rfl, rfl⟩
    · have hs : (ofQuote quote).startsComment c rest = false := by
        rw [← Bool.not_eq_true, startsComment_ofQuote]
        exact hcomment
      have hs' : (ofQuote quote).startsComment c (codeFrom (quoteAfter quote [c]) rest) = false := by
        rw [← Bool.not_eq_true, startsComment_ofQuote]
        rintro ⟨hq, hc, hhead⟩
        refine hcomment ⟨hq, hc, ?_⟩
        obtain ⟨u, hu⟩ := List.head?_eq_some_iff.mp hhead
        obtain ⟨v, hv⟩ := codeFrom_isPrefix (quoteAfter quote [c]) rest
        rw [← hv, hu]
        rfl
      have hnext := next_ofQuote hquote h
      have hrest := h.next hs
      rw [hnext] at hrest
      obtain ⟨hsides, hend⟩ := ih (hquote.step c) hrest
      rw [codeFrom_cons fun hq hc hhead => hcomment ⟨hq, hc, hhead⟩, lineSides, lineSides, lineEnd,
        lineEnd, hs, hs', hnext]
      simp only [Bool.false_eq_true, if_false]
      exact ⟨by rw [hsides], hend⟩

theorem lineEnd_append_blank {tail : List Char} (htail : AllBlank tail) {state : ScanState}
    {line : List Char} (h : lineEnd state (line ++ tail) = .code) : lineEnd state line = .code := by
  induction line generalizing state with
  | nil =>
    induction tail generalizing state with
    | nil => exact h
    | cons c tail ih =>
      obtain ⟨hc, htail⟩ := htail.of_cons
      rw [List.nil_append, lineEnd_inert_cons (inert_of_isBlank hc)] at h
      have := ih htail h
      cases state with
      | code => rfl
      | tag => cases this
      | string b => cases this
  | cons c line ih =>
    rw [List.cons_append, lineEnd, startsComment_append _ _ (head?_ne_slash htail)] at h
    rw [lineEnd]
    split
    · rename_i hs
      rwa [if_pos hs] at h
    · rename_i hs
      rw [if_neg hs] at h
      exact ih h

theorem lineEnd_blank_append {lead : List Char} (hlead : AllBlank lead) (line : List Char) :
    lineEnd .code (lead ++ line) = lineEnd .code line := by
  induction lead with
  | nil => rfl
  | cons c lead ih =>
    obtain ⟨hc, hlead⟩ := hlead.of_cons
    rw [List.cons_append, lineEnd_inert_cons (inert_of_isBlank hc)]
    exact ih hlead

theorem lineSides_codePart {line : List Char} (h : NoEscape .code line) :
    lineSides .code (codePart line) = lineSides .code line := by
  obtain ⟨lead, tail, hlead, htail, heq⟩ := exists_trim (codeFrom none line)
  calc lineSides .code (codePart line)
      = lineSides .code (lead ++ trim (codeFrom none line) ++ tail) := by
        rw [lineSides_append_blank htail, lineSides_blank_append hlead isLineStart_code, codePart]
    _ = lineSides .code line := by
        rw [← heq]
        exact (lineSides_codeFrom isQuote_none h).1

theorem lineEnd_codePart {line : List Char} (h : NoEscape .code line) (hclosed : lineEnd .code line = .code) :
    lineEnd .code (codePart line) = .code := by
  obtain ⟨lead, tail, hlead, htail, heq⟩ := exists_trim (codeFrom none line)
  have hcode : lineEnd .code (codeFrom none line) = .code := by
    have hend : lineEnd .code (codeFrom none line) = lineEnd .code line :=
      (lineSides_codeFrom isQuote_none h).2
    rw [hend, hclosed]
  rw [heq] at hcode
  have := lineEnd_append_blank htail hcode
  rwa [lineEnd_blank_append hlead] at this

/-- The code of a line has no comment. -/
theorem codeFrom_codePart (line : List Char) : codeFrom none (codePart line) = codePart line := by
  obtain ⟨lead, tail, hlead, -, heq⟩ := exists_trim (codeFrom none line)
  obtain ⟨rest, hrest⟩ := codeFrom_isPrefix none line
  have hlong : codeFrom none (lead ++ codePart line) = lead ++ codePart line := by
    refine codeFrom_eq_self_of_isPrefix (v := tail ++ rest) ⟨tail, ?_⟩
    have hline : lead ++ codePart line ++ (tail ++ rest) = line := by
      rw [← List.append_assoc, codePart, ← heq, hrest]
    rw [hline, heq]
    rfl
  rw [codeFrom_blank_append hlead] at hlong
  exact List.append_cancel_left hlong

theorem NoEscape.of_isPrefix {state : ScanState} {u v : List Char} (h : NoEscape state v) (huv : u <+: v) :
    NoEscape state u := by
  obtain ⟨w, rfl⟩ := huv
  intro before after heq b
  exact h before (after ++ w) (by rw [heq]; simp) b

theorem NoEscape.of_blank_append {lead line : List Char} (hlead : AllBlank lead)
    (h : NoEscape .code (lead ++ line)) : NoEscape .code line := by
  intro before after heq b
  have := h (lead ++ before) after (by rw [heq]; simp) b
  rwa [lineEnd_blank_append hlead] at this

theorem NoEscape.codePart {line : List Char} (h : NoEscape .code line) : NoEscape .code (codePart line) := by
  obtain ⟨lead, tail, hlead, -, heq⟩ := exists_trim (codeFrom none line)
  obtain ⟨rest, hrest⟩ := codeFrom_isPrefix none line
  refine NoEscape.of_blank_append hlead (h.of_isPrefix ⟨tail ++ rest, ?_⟩)
  rw [← List.append_assoc, TableCodegen.codePart, ← heq, hrest]

/-! ## Shapes -/

/-- An opening bracket at the end of a code that is closed counts. -/
theorem lineSides_concat {quote : Option Char} (hquote : IsQuote quote) {front : List Char} {c : Char}
    {b : Bracket} (hc : bracketOf? c = some (b, true)) (hcode : codeFrom quote (front ++ [c]) = front ++ [c])
    (hescape : NoEscape (ofQuote quote) (front ++ [c])) (hend : lineEnd (ofQuote quote) (front ++ [c]) = .code) :
    lineSides (ofQuote quote) (front ++ [c]) = lineSides (ofQuote quote) front ++ [(b, true)] := by
  induction front generalizing quote with
  | nil =>
    have hs : (ofQuote quote).startsComment c [] = false := by simp [ScanState.startsComment]
    have hmark : c ≠ tagMark ∧ c ≠ '"' := by
      refine ⟨?_, ?_⟩ <;> rintro rfl <;> simp [bracketOf?, tagMark] at hc
    rw [List.nil_append, lineEnd, hs, if_neg Bool.false_ne_true] at hend
    change (ofQuote quote).next c = .code at hend
    have hstate : ofQuote quote = .code := by
      cases hq : ofQuote quote with
      | code => rfl
      | tag =>
        rw [hq, ScanState.next, if_neg hmark.1] at hend
        cases hend
      | string b =>
        rw [hq] at hend
        simp [ScanState.next, hmark.2] at hend
    change lineSides (ofQuote quote) [c] = [(b, true)]
    rw [lineSides, hs, if_neg Bool.false_ne_true, hstate, sideAt?, if_pos rfl, hc]
    rfl
  | cons d front ih =>
    have hcomment : ¬ (quote = none ∧ d = '/' ∧ (front ++ [c]).head? = some '/') := by
      rintro ⟨rfl, rfl, hhead⟩
      rw [List.cons_append, codeFrom_comment hhead] at hcode
      cases hcode
    have hs : (ofQuote quote).startsComment d (front ++ [c]) = false := by
      rw [← Bool.not_eq_true, startsComment_ofQuote]
      exact hcomment
    have hs' : (ofQuote quote).startsComment d front = false := by
      cases front with
      | nil => simp [ScanState.startsComment]
      | cons e front => exact hs
    have hnext := next_ofQuote hquote hescape
    have hrest := NoEscape.next hescape hs
    rw [hnext] at hrest
    rw [List.cons_append, codeFrom_cons fun hq hd hhead => hcomment ⟨hq, hd, hhead⟩, List.cons.injEq] at hcode
    rw [List.cons_append, lineEnd, hs, if_neg Bool.false_ne_true, hnext] at hend
    rw [List.cons_append, lineSides, hs, if_neg Bool.false_ne_true, lineSides, hs',
      if_neg Bool.false_ne_true, hnext, ih (hquote.step d) hcode.2 hrest hend, List.append_assoc]

theorem endsOpen_iff {code : List Char} :
    endsOpen code = true ↔ ∃ front c b, code = front ++ [c] ∧ bracketOf? c = some (b, true) := by
  unfold endsOpen endsWithChar
  rw [Bool.or_eq_true, decide_eq_true_eq, decide_eq_true_eq, List.getLast?_eq_some_iff,
    List.getLast?_eq_some_iff]
  constructor
  · rintro (⟨front, rfl⟩ | ⟨front, rfl⟩)
    · exact ⟨front, _, .curly, rfl, rfl⟩
    · exact ⟨front, _, .round, rfl, rfl⟩
  · rintro ⟨front, c, b, rfl, hc⟩
    rcases bracket_cases hc with ⟨-, rfl | rfl⟩ | ⟨hside, -⟩
    · exact Or.inl ⟨front, rfl⟩
    · exact Or.inr ⟨front, rfl⟩
    · cases hside

/-- What the shape of a line says of its brackets. -/
theorem StructuredLine.shape_cases {line : List Char} (h : StructuredLine line) :
    (isLoneCloser (codePart line) = true ∧ endsOpen (codePart line) = false ∧
      nesting (lineSides .code line) = -1) ∨
    (isLoneCloser (codePart line) = false ∧ endsOpen (codePart line) = false ∧
      nesting (lineSides .code line) = 0) ∨
    (isLoneCloser (codePart line) = false ∧ endsOpen (codePart line) = true ∧
      nesting (lineSides .code line) = 1) := by
  have hsides := lineSides_codePart h.noEscape
  have hopener : ∀ front c b, codePart line = front ++ [c] → bracketOf? c = some (b, true) →
      lineSides .code (codePart line) = lineSides .code front ++ [(b, true)] := by
    intro front c b heq hc
    have hcode := codeFrom_codePart line
    have hescape := h.noEscape.codePart
    have hend := lineEnd_codePart h.noEscape h.closed
    rw [heq] at hcode hescape hend ⊢
    exact lineSides_concat isQuote_none hc hcode hescape hend
  rw [← hsides]
  have hshape := h.shape
  generalize codePart line = code at hshape hopener
  cases hshape with
  | closer h =>
    left
    rcases h with rfl | rfl <;> decide
  | balanced h =>
    right; left
    refine ⟨?_, ?_, h.nesting_eq⟩
    · rw [← Bool.not_eq_true]
      intro hcloser
      unfold isLoneCloser at hcloser
      rw [Bool.or_eq_true, decide_eq_true_eq, decide_eq_true_eq] at hcloser
      rcases hcloser with rfl | rfl <;> exact not_balanced_closer _ h
    · rw [← Bool.not_eq_true, endsOpen_iff]
      rintro ⟨front, c, b, heq, hc⟩
      rw [hopener front c b heq hc] at h
      exact not_balanced_concat_opener b _ h
  | @opener front c b hc h =>
    right; right
    have hcloser : c ≠ '\x7d' ∧ c ≠ ')' := by
      refine ⟨?_, ?_⟩ <;> rintro rfl <;> simp [bracketOf?] at hc
    refine ⟨isLoneCloser_append hcloser.1 hcloser.2 front [], endsOpen_iff.mpr ⟨front, c, b, rfl, hc⟩, ?_⟩
    rw [hopener front c b rfl hc, nesting_append, h.nesting_eq, nesting_opener]
    rfl

/-- A line behind which the next one starts in code, and whose shape says how many brackets it leaves open. -/
structure ShapedLine (line : List Char) : Prop where
  next : nextLine .code line = .code
  shape :
    (isLoneCloser (codePart line) = true ∧ endsOpen (codePart line) = false ∧
      nesting (lineSides .code line) = -1) ∨
    (isLoneCloser (codePart line) = false ∧ endsOpen (codePart line) = false ∧
      nesting (lineSides .code line) = 0) ∨
    (isLoneCloser (codePart line) = false ∧ endsOpen (codePart line) = true ∧
      nesting (lineSides .code line) = 1)

theorem StructuredLine.shaped {line : List Char} (h : StructuredLine line) : ShapedLine line := by
  refine ⟨?_, h.shape_cases⟩
  rw [nextLine, h.closed]
  rfl

end TableCodegen
