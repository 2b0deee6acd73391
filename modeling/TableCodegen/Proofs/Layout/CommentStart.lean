import TableCodegen.Proofs.Layout.LineShape

/-!
# Where a comment starts

Two readers look for the comment of a line. The validator reads a line with the state of `ScanState`, and the
layout cuts a line with the mark of the quoted part it is in. Here the two are run side by side.

Results:

* `exists_readsTo`: the validator reads a line up to its comment, or to its end.
* `ReadsTo.unique`: there is one place where it stops.
* `SameContext.next`: one character keeps the readers together, unless it is an escaped quote.
* `codeFrom_eq_readPart`: the readers stop at the same place when no quote before it is escaped.
* `comment_starts_agree`: the code of such a line is what the validator reads of it.
* `escaped_quote_parts_readers`: how the readers differ behind an escaped quote.

**Deviation.** For the validator a quote behind a backslash does not end a string, for `codePart` every quote
does. Behind such a quote one of them is in the string and the other is not, so that the comment of the line can
be taken for code, or a part of a string for a comment.
-/

namespace TableCodegen

open TableCodegen.Text

/-! ## Specification -/

/-- The validator reads the text `front` of a line and stops before the text `comment`. -/
structure ReadsTo (line front comment : List Char) : Prop where
  whole : front ++ comment = line
  /-- No comment starts before the end of the text that is read. -/
  read : ∀ before after, line = before ++ '/' :: '/' :: after → before.length < front.length →
    lineEnd .code before ≠ .code
  /-- The validator stops at the end of the line, or at two slashes in code. -/
  stop : comment = [] ∨ lineEnd .code front = .code ∧ ∃ body, comment = '/' :: '/' :: body
  /-- The rest of the line holds no delimiter. -/
  delimiters : ∀ number, lineDelimiters number 1 .code line = lineDelimiters number 1 .code front
  /-- The rest of the line does not matter for the next line. -/
  ending : lineEnd .code line = lineEnd .code front

/-- No quote of the text stands in a string behind a backslash. -/
def NoEscapedQuote (state : ScanState) (text : List Char) : Prop :=
  ∀ before after, text = before ++ '"' :: after → lineEnd state before ≠ .string true

/-- The mark of the formatter and the state of the validator stand for the same kind of text. -/
inductive SameContext : Option Char → ScanState → Prop where
  | code : SameContext none .code
  | string (afterBackslash : Bool) : SameContext (some '"') (.string afterBackslash)
  | tag : SameContext (some tagMark) .tag

/-! ## What the validator reads -/

/-- The text of a line before the slashes that start a comment in code. -/
def readPart : ScanState → List Char → List Char
  | _, [] => []
  | state, c :: rest => if state.startsComment c rest then [] else c :: readPart (state.next c) rest

theorem readPart_cons {state : ScanState} {c : Char} {rest : List Char}
    (h : state.startsComment c rest = false) :
    readPart state (c :: rest) = c :: readPart (state.next c) rest := by
  rw [readPart, h, if_neg Bool.false_ne_true]

theorem startsComment_eq_true_iff {state : ScanState} {c : Char} {rest : List Char} :
    state.startsComment c rest = true ↔ state = .code ∧ c = '/' ∧ ∃ body, rest = '/' :: body := by
  unfold ScanState.startsComment
  rw [Bool.and_eq_true, Bool.and_eq_true, decide_eq_true_eq, decide_eq_true_eq, decide_eq_true_eq,
    List.head?_eq_some_iff, and_assoc]

/-- A comment that does not start in a line does not start in a part of it. -/
theorem startsComment_of_isPrefix {state : ScanState} {c : Char} {before rest : List Char}
    (h : state.startsComment c rest = false) (hbefore : before <+: rest) :
    state.startsComment c before = false := by
  rw [← Bool.not_eq_true, startsComment_eq_true_iff] at h ⊢
  rintro ⟨hcode, hc, body, rfl⟩
  obtain ⟨more, rfl⟩ := hbefore
  exact h ⟨hcode, hc, body ++ more, rfl⟩

theorem lineEnd_cons {state : ScanState} {c : Char} {rest : List Char}
    (h : state.startsComment c rest = false) : lineEnd state (c :: rest) = lineEnd (state.next c) rest := by
  rw [lineEnd, h, if_neg Bool.false_ne_true]

/-- Behind what is read comes nothing, or two slashes in code. -/
theorem readPart_append_stop (state : ScanState) (line : List Char) :
    ∃ comment, readPart state line ++ comment = line ∧
      (comment = [] ∨ lineEnd state line = .code ∧ ∃ body, comment = '/' :: '/' :: body) := by
  induction line generalizing state with
  | nil => exact ⟨[], rfl, Or.inl rfl⟩
  | cons c rest ih =>
    cases h : state.startsComment c rest with
    | true =>
      obtain ⟨rfl, rfl, body, rfl⟩ := startsComment_eq_true_iff.mp h
      exact ⟨'/' :: '/' :: body, rfl, Or.inr ⟨rfl, body, rfl⟩⟩
    | false =>
      obtain ⟨comment, hline, hstop⟩ := ih (state.next c)
      refine ⟨comment, by rw [readPart_cons h, List.cons_append, hline], ?_⟩
      rwa [lineEnd_cons h]

theorem readPart_isPrefix (state : ScanState) (line : List Char) : readPart state line <+: line := by
  obtain ⟨comment, hline, -⟩ := readPart_append_stop state line
  exact ⟨comment, hline⟩

/-- The delimiters of a line and the state behind it come from what is read. -/
theorem read_readPart (line : List Char) (number column : Nat) (state : ScanState) :
    lineDelimiters number column state (readPart state line) = lineDelimiters number column state line ∧
      lineEnd state (readPart state line) = lineEnd state line := by
  induction line generalizing column state with
  | nil => exact ⟨rfl, rfl⟩
  | cons c rest ih =>
    cases h : state.startsComment c rest with
    | true =>
      rw [readPart, lineDelimiters, lineEnd, h]
      exact ⟨rfl, rfl⟩
    | false =>
      have h' := startsComment_of_isPrefix h (readPart_isPrefix (state.next c) rest)
      obtain ⟨hdelimiters, hend⟩ := ih (column + 1) (state.next c)
      rw [readPart_cons h, lineEnd_cons h, lineEnd_cons h', lineDelimiters, lineDelimiters, h, h', hdelimiters]
      exact ⟨rfl, hend⟩

/-- No comment starts before the end of what is read. -/
theorem lineEnd_ne_code_of_readPart {state : ScanState} {line before after : List Char}
    (h : line = before ++ '/' :: '/' :: after) (hlength : before.length < (readPart state line).length) :
    lineEnd state before ≠ .code := by
  induction before generalizing state line with
  | nil =>
    rintro hcode
    have hstart : state.startsComment '/' ('/' :: after) = true :=
      startsComment_eq_true_iff.mpr ⟨hcode, rfl, after, rfl⟩
    rw [h, List.nil_append, readPart, if_pos hstart] at hlength
    cases hlength
  | cons c before ih =>
    rw [h, List.cons_append] at hlength
    cases hstart : state.startsComment c (before ++ '/' :: '/' :: after) with
    | true =>
      rw [readPart, if_pos hstart] at hlength
      cases hlength
    | false =>
      rw [readPart_cons hstart, List.length_cons, List.length_cons] at hlength
      rw [lineEnd_cons (startsComment_of_isPrefix hstart (List.prefix_append _ _))]
      exact ih rfl (Nat.lt_of_succ_lt_succ hlength)

theorem exists_readsTo (line : List Char) : ∃ comment, ReadsTo line (readPart .code line) comment := by
  obtain ⟨comment, hwhole, hstop⟩ := readPart_append_stop .code line
  have hend := (read_readPart line 1 1 .code).2
  refine ⟨comment, hwhole, fun before after => lineEnd_ne_code_of_readPart, ?_, fun number => ?_, hend.symm⟩
  · rwa [hend]
  · exact (read_readPart line number 1 .code).1.symm

/-- The validator does not read on where it can stop. -/
theorem ReadsTo.length_le {line front front' comment comment' : List Char} (h : ReadsTo line front comment)
    (h' : ReadsTo line front' comment') : front'.length ≤ front.length := by
  rw [← Nat.not_lt]
  intro hlength
  rcases h.stop with rfl | ⟨hcode, body, rfl⟩
  · have hwhole := congrArg List.length (h.whole.trans h'.whole.symm)
    rw [List.append_nil, List.length_append] at hwhole
    omega
  · exact h'.read front body h.whole.symm hlength hcode

/-- The validator stops at one place. -/
theorem ReadsTo.unique {line front front' comment comment' : List Char} (h : ReadsTo line front comment)
    (h' : ReadsTo line front' comment') : front = front' :=
  List.append_inj_left (h.whole.trans h'.whole.symm) (Nat.le_antisymm (h'.length_le h) (h.length_le h'))

/-! ## Escaped quotes -/

theorem noEscapedQuote_nil (state : ScanState) : NoEscapedQuote state [] := by
  intro before after h
  cases before <;> cases h

theorem NoEscapedQuote.of_isPrefix {state : ScanState} {u v : List Char} (h : NoEscapedQuote state v)
    (huv : u <+: v) : NoEscapedQuote state u := by
  obtain ⟨w, rfl⟩ := huv
  intro before after heq
  exact h before (after ++ w) (by rw [heq, List.append_assoc, List.cons_append])

theorem noEscapedQuote_of_startsComment {state : ScanState} {c : Char} {rest : List Char}
    (h : state.startsComment c rest = true) : NoEscapedQuote state (c :: rest) := by
  obtain ⟨rfl, rfl, body, rfl⟩ := startsComment_eq_true_iff.mp h
  intro before after heq
  rcases before with _ | ⟨d, _ | ⟨e, before⟩⟩
  · cases heq
  · cases heq
  · obtain ⟨rfl, hrest⟩ := List.cons.inj heq
    obtain ⟨rfl, -⟩ := List.cons.inj hrest
    have hend : lineEnd .code ('/' :: '/' :: before) = .code := rfl
    rw [hend]
    exact ScanState.noConfusion

theorem noEscapedQuote_cons_iff {state : ScanState} {c : Char} {rest : List Char}
    (h : state.startsComment c rest = false) :
    NoEscapedQuote state (c :: rest) ↔ (c = '"' → state ≠ .string true) ∧ NoEscapedQuote (state.next c) rest := by
  constructor
  · intro hescape
    refine ⟨fun hc => hescape [] rest (by rw [hc, List.nil_append]), fun before after heq => ?_⟩
    have hbefore : before <+: rest := ⟨'"' :: after, heq.symm⟩
    rw [← lineEnd_cons (startsComment_of_isPrefix h hbefore)]
    exact hescape (c :: before) after (by rw [heq, List.cons_append])
  · rintro ⟨hc, hrest⟩ before after heq
    cases before with
    | nil => exact hc (List.cons.inj heq).1
    | cons d before =>
      obtain ⟨rfl, htail⟩ := List.cons.inj heq
      have hbefore : before <+: rest := ⟨'"' :: after, htail.symm⟩
      rw [lineEnd_cons (startsComment_of_isPrefix h hbefore)]
      exact hrest before after htail

instance NoEscapedQuote.decidable : (state : ScanState) → (text : List Char) → Decidable (NoEscapedQuote state text)
  | state, [] => isTrue (noEscapedQuote_nil state)
  | state, c :: rest =>
    if h : state.startsComment c rest = true then isTrue (noEscapedQuote_of_startsComment h)
    else
      haveI := NoEscapedQuote.decidable (state.next c) rest
      decidable_of_iff _ (noEscapedQuote_cons_iff (Bool.not_eq_true _ ▸ h)).symm

/-! ## The two readers side by side -/

/-- A character that is no escaped quote means the same to both readers. -/
theorem SameContext.next {quote : Option Char} {state : ScanState} (h : SameContext quote state) {c : Char}
    (hc : c = '"' → state ≠ .string true) : SameContext (quoteAfter quote [c]) (state.next c) := by
  cases h with
  | code =>
    by_cases htag : c = tagMark
    · subst htag
      exact .tag
    · by_cases hquote : c = '"'
      · subst hquote
        exact .string false
      · have hmark : quoteAfter none [c] = none := by
          have htick : c ≠ '\x60' := htag
          simp [quoteAfter, hquote, htick]
        rw [hmark, ScanState.next, if_neg htag, if_neg hquote]
        exact .code
  | string afterBackslash =>
    by_cases hquote : c = '"'
    · subst hquote
      cases afterBackslash with
      | true => exact absurd rfl (hc rfl)
      | false => exact .code
    · have hmark : quoteAfter (some '"') [c] = some '"' := by simp [quoteAfter, hquote]
      have hstate : (ScanState.string afterBackslash).next c = .string (c = '\\') := by
        simp [ScanState.next, hquote]
      rw [hmark, hstate]
      exact .string _
  | tag =>
    by_cases htag : c = tagMark
    · subst htag
      exact .code
    · have hmark : quoteAfter (some tagMark) [c] = some tagMark := by simp [quoteAfter, htag]
      rw [hmark, ScanState.next, if_neg htag]
      exact .tag

/-- Both readers see the start of a comment. -/
theorem SameContext.startsComment_iff {quote : Option Char} {state : ScanState} (h : SameContext quote state)
    {c : Char} {rest : List Char} :
    state.startsComment c rest = true ↔ quote = none ∧ c = '/' ∧ rest.head? = some '/' := by
  rw [startsComment_eq_true_iff, List.head?_eq_some_iff]
  cases h <;> simp

/-- The formatter takes for code what the validator reads, when no quote in it is escaped; behind it the readers
are in the same kind of text. -/
theorem codeFrom_eq_readPart {quote : Option Char} {state : ScanState} (h : SameContext quote state)
    {line : List Char} (hescape : NoEscapedQuote state (codeFrom quote line)) :
    codeFrom quote line = readPart state line ∧
      SameContext (quoteAfter quote (codeFrom quote line)) (lineEnd state line) := by
  induction line generalizing quote state with
  | nil => cases quote <;> exact ⟨rfl, h⟩
  | cons c rest ih =>
    cases hstart : state.startsComment c rest with
    | true =>
      obtain ⟨rfl, rfl, hrest⟩ := h.startsComment_iff.mp hstart
      rw [codeFrom_comment hrest, readPart, lineEnd, if_pos hstart, if_pos hstart]
      exact ⟨rfl, h⟩
    | false =>
      have hcode : codeFrom quote (c :: rest) = c :: codeFrom (quoteAfter quote [c]) rest := by
        refine codeFrom_cons fun hquote hc hrest => ?_
        rw [h.startsComment_iff.mpr ⟨hquote, hc, hrest⟩] at hstart
        cases hstart
      have hstart' := startsComment_of_isPrefix hstart (codeFrom_isPrefix (quoteAfter quote [c]) rest)
      rw [hcode, noEscapedQuote_cons_iff hstart'] at hescape
      obtain ⟨hread, hcontext⟩ := ih (h.next hescape.1) hescape.2
      rw [← quoteAfter_append, List.singleton_append] at hcontext
      rw [hcode, readPart_cons hstart, lineEnd_cons hstart, ← hread]
      exact ⟨rfl, hcontext⟩

/-- **The formatter and the validator agree on where the comment of a line starts**, when no quote before the
comment stands in a string behind a backslash: there is one place where the validator stops reading the line,
and what is before it, without the blanks around it, is the code of the line. -/
theorem comment_starts_agree {line : List Char} (h : NoEscapedQuote .code (codeFrom none line)) :
    ∃ front comment, ReadsTo line front comment ∧ codePart line = trim front ∧
      ∀ front' comment', ReadsTo line front' comment' → front' = front := by
  obtain ⟨comment, hread⟩ := exists_readsTo line
  refine ⟨readPart .code line, comment, hread, ?_, fun front' comment' h' => h'.unique hread⟩
  rw [codePart, (codeFrom_eq_readPart .code h).1]

/-- Slashes in a string start no comment, and neither does a backslash end one. -/
theorem quoted_slashes_agree :
    NoEscapedQuote .code (codeFrom none "@doc \"http://a\\b\" // c\"d".toList) ∧
      codePart "@doc \"http://a\\b\" // c\"d".toList = "@doc \"http://a\\b\"".toList ∧
      ∃ front comment, ReadsTo "@doc \"http://a\\b\" // c\"d".toList front comment ∧
        codePart "@doc \"http://a\\b\" // c\"d".toList = trim front ∧
        ∀ front' comment', ReadsTo "@doc \"http://a\\b\" // c\"d".toList front' comment' → front' = front :=
  ⟨by decide, by decide, comment_starts_agree (by decide)⟩

/-! ## Behind an escaped quote -/

/-- A part of a line that ends in a string or a tag holds no comment. -/
theorem readPart_append {state : ScanState} {u : List Char} (h : lineEnd state u ≠ .code) (v : List Char) :
    readPart state (u ++ v) = u ++ readPart (lineEnd state u) v := by
  induction u generalizing state with
  | nil => rfl
  | cons c u ih =>
    have hstart : state.startsComment c (u ++ v) = false := by
      rw [← Bool.not_eq_true, startsComment_eq_true_iff]
      rintro ⟨rfl, rfl, body, hbody⟩
      cases u with
      | nil => exact h rfl
      | cons d u =>
        obtain ⟨rfl, -⟩ := List.cons.inj hbody
        exact h rfl
    have hend := lineEnd_cons (startsComment_of_isPrefix hstart (List.prefix_append u v))
    rw [hend] at h
    rw [List.cons_append, readPart_cons hstart, ih h, hend, List.cons_append]

/-- **Behind an escaped quote the readers part**: two slashes right behind the first one are a comment for the
formatter, and a part of the string for the validator. -/
theorem escaped_quote_parts_readers {front : List Char} {afterBackslash : Bool}
    (hstring : lineEnd .code front = .string afterBackslash) (hescape : NoEscapedQuote .code front)
    (more : List Char) :
    codePart (front ++ '\\' :: '"' :: '/' :: '/' :: more) = trimStart front ++ ['\\', '"'] ∧
      ∀ front' comment, ReadsTo (front ++ '\\' :: '"' :: '/' :: '/' :: more) front' comment →
        front ++ ['\\', '"', '/', '/'] <+: front' := by
  have hread : ∀ v, readPart .code (front ++ v) = front ++ readPart (.string afterBackslash) v := by
    intro v
    rw [readPart_append (by rw [hstring]; exact ScanState.noConfusion), hstring]
  constructor
  · -- up to the escaped quote the readers agree, so that the formatter is in the string as well
    have hself : readPart .code front = front := by simpa [readPart] using hread []
    obtain ⟨hcode, hcontext⟩ :=
      codeFrom_eq_readPart .code (hescape.of_isPrefix (codeFrom_isPrefix none front))
    rw [hself] at hcode
    rw [hcode, hstring] at hcontext
    have hquote : quoteAfter none front = some '"' := by
      generalize quoteAfter none front = quote at hcontext ⊢
      cases hcontext
      rfl
    have hends : codeFrom (some '"') ('\\' :: '"' :: '/' :: '/' :: more) = ['\\', '"'] := rfl
    rw [codePart, codeFrom_append hcode (by simp), hquote, hends, trim_append_cons rfl]
    rfl
  · intro front' comment h'
    obtain ⟨comment', h⟩ := exists_readsTo (front ++ '\\' :: '"' :: '/' :: '/' :: more)
    have hrest : readPart (.string afterBackslash) ('\\' :: '"' :: '/' :: '/' :: more) =
        ['\\', '"', '/', '/'] ++ readPart (.string false) more := rfl
    rw [h'.unique h, hread, hrest, ← List.append_assoc]
    exact List.prefix_append _ _

end TableCodegen
