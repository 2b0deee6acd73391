import Mathlib.Data.List.Basic
import TableCodegen.Proofs.Layout.BalancedWord
import TableCodegen.Proofs.Text.Line

/-!
# Code delimiters

`delimiters` reads a document line by line, with a state that says what the next character is part of.
Here the delimiters of a document are described by its text as a whole: from left to right, tags,
strings and comments are passed over as pieces, and every bracket between them counts.

Results:

* `delimiters_eq_scan`: reading line by line is reading the document at once.
* `CodeDelimiters.scan_eq`, `CodeDelimiters.exists_of_text`: every document has code delimiters, and
  they are what is read.
* `codeDelimiters_iff`: the code delimiters of a document are those that are read.
* `RouteValidator.delimiter_verdict`: the verdict on a document, and the place of a refused closer.
-/

namespace TableCodegen

open TableCodegen.Text

/-! ## Specification -/

/-- A place in a document. -/
structure Place where
  line : Nat
  column : Nat
  deriving Repr, DecidableEq

namespace Place

/-- Lines and columns count from one. -/
def start : Place := ⟨1, 1⟩

/-- The place behind a character. -/
def next (p : Place) (c : Char) : Place :=
  if c = '\n' then ⟨p.line + 1, 1⟩ else ⟨p.line, p.column + 1⟩

/-- The place behind a text. -/
def after (p : Place) (cs : List Char) : Place :=
  cs.foldl next p

@[simp] theorem after_nil (p : Place) : p.after [] = p := rfl

@[simp] theorem after_cons (p : Place) (c : Char) (cs : List Char) :
    p.after (c :: cs) = (p.next c).after cs := rfl

@[simp] theorem after_append (p : Place) (u v : List Char) :
    p.after (u ++ v) = (p.after u).after v := List.foldl_append

theorem next_of_ne {p : Place} {c : Char} (h : c ≠ '\n') : p.next c = ⟨p.line, p.column + 1⟩ :=
  if_neg h

/-- Within a line, places advance by characters. -/
theorem after_line {line : List Char} (h : '\n' ∉ line) (p : Place) :
    p.after line = ⟨p.line, p.column + line.length⟩ := by
  induction line generalizing p with
  | nil => rfl
  | cons c line ih =>
    rw [List.mem_cons, not_or] at h
    rw [after_cons, ih h.2, next_of_ne (Ne.symm h.1), List.length_cons]
    simp only [Place.mk.injEq, true_and]
    omega

end Place

/-- Every double quote of the text stands behind a backslash. -/
def QuotesEscaped (body : List Char) : Prop :=
  ∀ before after, body = before ++ '"' :: after → before.getLast? = some '\\'

/-- Nothing is left, or a line feed comes next. -/
def AtLineEnd (rest : List Char) : Prop :=
  ∀ c ∈ rest.head?, c = '\n'

/-- A piece of a document that is passed over when the text `rest` follows it. -/
inductive Skipped : (piece rest : List Char) → Prop where
  | tag {body rest : List Char} (h : tagMark ∉ body) : Skipped (tagMark :: body ++ [tagMark]) rest
  /-- A tag that is never closed. -/
  | openTag {body : List Char} (h : tagMark ∉ body) : Skipped (tagMark :: body) []
  /-- A string ends with a quote that stands behind no backslash. -/
  | string {body rest : List Char} (hline : '\n' ∉ body) (hq : QuotesEscaped body)
      (hend : body.getLast? ≠ some '\\') : Skipped ('"' :: body ++ ['"']) rest
  /-- A string without such a quote ends with its line. -/
  | openString {body rest : List Char} (hline : '\n' ∉ body) (hq : QuotesEscaped body)
      (hend : AtLineEnd rest) : Skipped ('"' :: body) rest
  | comment {body rest : List Char} (hline : '\n' ∉ body) (hend : AtLineEnd rest) :
      Skipped ('/' :: '/' :: body) rest

/-- The text from a place on has the code delimiters `ds`. -/
inductive CodeDelimiters : Place → List Char → List Delimiter → Prop where
  | done (p : Place) : CodeDelimiters p [] []
  | skipped {p : Place} {piece rest : List Char} {ds : List Delimiter} (h : Skipped piece rest)
      (hrest : CodeDelimiters (p.after piece) rest ds) : CodeDelimiters p (piece ++ rest) ds
  | bracket {p : Place} {c : Char} {rest : List Char} {ds : List Delimiter} {b : Bracket}
      {opens : Bool} (h : bracketOf? c = some (b, opens))
      (hrest : CodeDelimiters (p.next c) rest ds) :
      CodeDelimiters p (c :: rest) (⟨b, opens, p.line, p.column⟩ :: ds)
  | other {p : Place} {c : Char} {rest : List Char} {ds : List Delimiter}
      (hbracket : bracketOf? c = none) (htag : c ≠ tagMark) (hquote : c ≠ '"')
      (hslash : c = '/' → rest.head? ≠ some '/')
      (hrest : CodeDelimiters (p.next c) rest ds) : CodeDelimiters p (c :: rest) ds

/-! ## Reading a document at once -/

/-- The delimiters of a text from a place on. In a comment there is no state: the rest of the line is
    passed over. -/
def scan : Option ScanState → Place → List Char → List Delimiter
  | _, _, [] => []
  | state?, p, c :: rest =>
    if c = '\n' then scan (some (state?.getD .code).acrossLines) (p.next c) rest
    else match state? with
      | none => scan none (p.next c) rest
      | some state =>
        if state.startsComment c rest then scan none (p.next c) rest
        else (delimiterAt? state c p.line p.column).toList ++
          scan (some (state.next c)) (p.next c) rest

theorem scan_feed (state? : Option ScanState) (p : Place) (rest : List Char) :
    scan state? p ('\n' :: rest) =
      scan (some (state?.getD .code).acrossLines) ⟨p.line + 1, 1⟩ rest := by
  cases state? <;> simp [scan, Place.next]

theorem scan_in_comment {c : Char} (h : c ≠ '\n') (p : Place) (rest : List Char) :
    scan none p (c :: rest) = scan none (p.next c) rest := by
  rw [scan, if_neg h]

theorem scan_comment_start {c : Char} (h : c ≠ '\n') {state : ScanState} {rest : List Char}
    (hs : state.startsComment c rest = true) (p : Place) :
    scan (some state) p (c :: rest) = scan none (p.next c) rest := by
  simp [scan, h, hs]

theorem scan_step {c : Char} (h : c ≠ '\n') {state : ScanState} {rest : List Char}
    (hs : state.startsComment c rest = false) (p : Place) :
    scan (some state) p (c :: rest) =
      (delimiterAt? state c p.line p.column).toList ++
        scan (some (state.next c)) (p.next c) rest := by
  simp [scan, h, hs]

/-- Only the end of the line ends a comment. -/
theorem scan_comment_body {body : List Char} (h : '\n' ∉ body) (p : Place) (rest : List Char) :
    scan none p (body ++ rest) = scan none (p.after body) rest := by
  induction body generalizing p with
  | nil => rfl
  | cons c body ih =>
    rw [List.mem_cons, not_or] at h
    rw [List.cons_append, scan_in_comment (Ne.symm h.1), ih h.2, Place.after_cons]

/-! ## Lines -/

theorem startsComment_append {line rest : List Char} (state : ScanState) (c : Char)
    (h : rest.head? ≠ some '/') :
    state.startsComment c (line ++ rest) = state.startsComment c line := by
  cases line with
  | nil => simp [ScanState.startsComment, h]
  | cons d line => rfl

/-- A line and its end are read as they are when the document is cut into lines. -/
theorem scan_line_feed {line : List Char} (h : '\n' ∉ line) (state : ScanState) (p : Place)
    (rest : List Char) :
    scan (some state) p (line ++ '\n' :: rest) =
      lineDelimiters p.line p.column state line ++
        scan (some (lineEnd state line).acrossLines) ⟨p.line + 1, 1⟩ rest := by
  induction line generalizing state p with
  | nil => rw [List.nil_append, scan_feed]; rfl
  | cons c line ih =>
    rw [List.mem_cons, not_or] at h
    have hc : c ≠ '\n' := Ne.symm h.1
    have hstart : state.startsComment c (line ++ '\n' :: rest) = state.startsComment c line :=
      startsComment_append state c (by simp)
    rw [List.cons_append, lineDelimiters, lineEnd]
    by_cases hs : state.startsComment c line = true
    · have hcode : state = .code := by
        simp only [ScanState.startsComment, Bool.and_eq_true, decide_eq_true_eq] at hs
        exact hs.1.1
      rw [scan_comment_start hc (hstart.trans hs), scan_comment_body h.2, scan_feed,
        Place.after_line h.2, Place.next_of_ne hc, if_pos hs, if_pos hs, hcode]
      rfl
    · rw [Bool.not_eq_true] at hs
      rw [scan_step hc (hstart.trans hs), ih h.2, Place.next_of_ne hc, if_neg (by simp [hs]),
        if_neg (by simp [hs]), List.append_assoc]

/-- The last line of a document has no end of its own. -/
theorem scan_last_line {line : List Char} (h : '\n' ∉ line) (state : ScanState) (p : Place) :
    scan (some state) p line = lineDelimiters p.line p.column state line := by
  induction line generalizing state p with
  | nil => rfl
  | cons c line ih =>
    rw [List.mem_cons, not_or] at h
    have hc : c ≠ '\n' := Ne.symm h.1
    rw [lineDelimiters]
    by_cases hs : state.startsComment c line = true
    · have := scan_comment_body h.2 (p.next c) []
      rw [List.append_nil] at this
      rw [scan_comment_start hc hs, this, if_pos hs]
      rfl
    · rw [Bool.not_eq_true] at hs
      rw [scan_step hc hs, ih h.2, Place.next_of_ne hc, if_neg (by simp [hs])]

/-- A carriage return at the end of a line holds no delimiter. -/
theorem lineDelimiters_return (line : List Char) (number column : Nat) (state : ScanState) :
    lineDelimiters number column state (line ++ ['\r']) =
      lineDelimiters number column state line := by
  induction line generalizing column state with
  | nil => cases state <;> simp [lineDelimiters, ScanState.startsComment, delimiterAt?, bracketOf?]
  | cons c line ih =>
    rw [List.cons_append, lineDelimiters, lineDelimiters, startsComment_append _ _ (by simp), ih]

/-- A carriage return at the end of a line does not matter to the next one. -/
theorem acrossLines_lineEnd_return (line : List Char) (state : ScanState) :
    (lineEnd state (line ++ ['\r'])).acrossLines = (lineEnd state line).acrossLines := by
  induction line generalizing state with
  | nil =>
    cases state <;>
      simp [lineEnd, ScanState.startsComment, ScanState.next, ScanState.acrossLines, tagMark]
  | cons c line ih =>
    rw [List.cons_append, lineEnd, lineEnd, startsComment_append _ _ (by simp)]
    split
    · rfl
    · exact ih _

theorem lineDelimiters_dropReturn (line : List Char) (number column : Nat) (state : ScanState) :
    lineDelimiters number column state (dropReturn line) =
      lineDelimiters number column state line := by
  rcases dropReturn_eq line with h | h
  · rw [h]
  · have := lineDelimiters_return (dropReturn line) number column state
    rw [← h] at this
    exact this.symm

theorem acrossLines_lineEnd_dropReturn (line : List Char) (state : ScanState) :
    (lineEnd state (dropReturn line)).acrossLines = (lineEnd state line).acrossLines := by
  rcases dropReturn_eq line with h | h
  · rw [h]
  · have := acrossLines_lineEnd_return (dropReturn line) state
    rw [← h] at this
    exact this.symm

/-- Reading a document line by line is reading it at once. -/
theorem delimitersFrom_lines (cs : List Char) (number : Nat) (state : ScanState) :
    delimitersFrom number state (lines cs) = scan (some state) ⟨number, 1⟩ cs := by
  induction hn : cs.length using Nat.strongRecOn generalizing cs number state with
  | _ n ih =>
    by_cases h : '\n' ∈ cs
    · obtain ⟨line, rest, rfl, hline⟩ := List.eq_append_cons_of_mem h
      have hlt : rest.length < n := by
        rw [← hn, List.length_append, List.length_cons]
        omega
      rw [lines_feed hline, delimitersFrom, lineDelimiters_dropReturn,
        acrossLines_lineEnd_dropReturn, ih _ hlt _ _ _ rfl, scan_line_feed hline]
    · rw [lines_of_not_mem h, scan_last_line h]
      split
      · rename_i hnil
        rw [hnil]
        rfl
      · simp [delimitersFrom]

theorem delimiters_eq_scan (document : List Char) :
    delimiters document = scan (some .code) .start document :=
  delimitersFrom_lines document 1 .code

/-! ## Pieces that are passed over -/

theorem startsComment_of_ne_code {state : ScanState} (h : state ≠ .code) (c : Char)
    (rest : List Char) : state.startsComment c rest = false := by
  simp [ScanState.startsComment, h]

theorem delimiterAt?_of_ne_code {state : ScanState} (h : state ≠ .code) (c : Char)
    (line column : Nat) : delimiterAt? state c line column = none := if_neg h

/-- Within tags and strings, characters are read without effect. -/
theorem scan_inside {state : ScanState} (h : state ≠ .code) {c : Char} (hc : c ≠ '\n') (p : Place)
    (rest : List Char) :
    scan (some state) p (c :: rest) = scan (some (state.next c)) (p.next c) rest := by
  rw [scan_step hc (startsComment_of_ne_code h c rest), delimiterAt?_of_ne_code h]
  rfl

/-- A tag goes on until it is closed, over line feeds too. -/
theorem scan_tag_body {body : List Char} (h : tagMark ∉ body) (p : Place) (rest : List Char) :
    scan (some .tag) p (body ++ rest) = scan (some .tag) (p.after body) rest := by
  induction body generalizing p with
  | nil => rfl
  | cons c body ih =>
    rw [List.mem_cons, not_or] at h
    rw [List.cons_append, Place.after_cons, ← ih h.2]
    by_cases hc : c = '\n'
    · subst hc
      rw [scan_feed]
      rfl
    · rw [scan_inside (by simp) hc, ScanState.next, if_neg (Ne.symm h.1)]

/-- The last character is a backslash; an empty text is `escaped` as the text before it is. -/
def endsEscaped (escaped : Bool) (body : List Char) : Bool :=
  (body.getLast?.map (· == '\\')).getD escaped

theorem endsEscaped_cons (escaped : Bool) (c : Char) (body : List Char) :
    endsEscaped escaped (c :: body) = endsEscaped (c == '\\') body := by
  rw [endsEscaped, endsEscaped, List.getLast?_cons]
  cases body.getLast? <;> rfl

theorem endsEscaped_false_iff (body : List Char) :
    endsEscaped false body = true ↔ body.getLast? = some '\\' := by
  rw [endsEscaped]
  cases body.getLast? <;> simp

/-- `QuotesEscaped` for a text that stands behind a backslash or not. -/
def QuotesEscapedFrom (escaped : Bool) (body : List Char) : Prop :=
  ∀ before after, body = before ++ '"' :: after → endsEscaped escaped before = true

theorem quotesEscapedFrom_false_iff (body : List Char) :
    QuotesEscapedFrom false body ↔ QuotesEscaped body := by
  simp only [QuotesEscapedFrom, QuotesEscaped, endsEscaped_false_iff]

theorem quotesEscapedFrom_nil (escaped : Bool) : QuotesEscapedFrom escaped [] := by
  intro before after h
  simp at h

theorem quotesEscapedFrom_cons {escaped : Bool} {c : Char} {body : List Char} :
    QuotesEscapedFrom escaped (c :: body) ↔
      (c = '"' → escaped = true) ∧ QuotesEscapedFrom (c == '\\') body := by
  constructor
  · intro h
    refine ⟨fun hc => h [] body (by rw [hc]; rfl), fun before after hb => ?_⟩
    rw [← endsEscaped_cons escaped]
    exact h (c :: before) after (by rw [hb]; rfl)
  · rintro ⟨hc, h⟩ before after hb
    cases before with
    | nil => exact hc (List.cons.inj hb).1
    | cons x before =>
      obtain ⟨rfl, hbody⟩ := List.cons.inj hb
      rw [endsEscaped_cons]
      exact h before after hbody

theorem scan_string_body {body : List Char} (hline : '\n' ∉ body) {escaped : Bool}
    (hq : QuotesEscapedFrom escaped body) (p : Place) (rest : List Char) :
    scan (some (.string escaped)) p (body ++ rest) =
      scan (some (.string (endsEscaped escaped body))) (p.after body) rest := by
  induction body generalizing escaped p with
  | nil => rfl
  | cons c body ih =>
    rw [List.mem_cons, not_or] at hline
    obtain ⟨hc, hq⟩ := quotesEscapedFrom_cons.mp hq
    have hnext : ScanState.next c (.string escaped) = .string (c == '\\') := by
      by_cases hquote : c = '"'
      · simp [ScanState.next, hquote, hc hquote]
      · simp [ScanState.next, hquote, beq_eq_decide]
    rw [List.cons_append, scan_inside (by simp) (Ne.symm hline.1), hnext, ih hline.2 hq,
      endsEscaped_cons escaped, Place.after_cons]

/-- Whatever is not a tag ends with its line. -/
theorem scan_atLineEnd {state? : Option ScanState} (hs : (state?.getD .code).acrossLines = .code)
    {rest : List Char} (h : AtLineEnd rest) (p : Place) :
    scan state? p rest = scan (some .code) p rest := by
  cases rest with
  | nil => simp [scan]
  | cons c rest =>
    rw [h c rfl, scan_feed, scan_feed, hs]
    rfl

/-- A character of code that is neither a bracket nor a slash only changes the state. -/
theorem scan_code_step {c : Char} (hfeed : c ≠ '\n') (hslash : c ≠ '/')
    (hbracket : bracketOf? c = none) (p : Place) (rest : List Char) :
    scan (some .code) p (c :: rest) = scan (some (ScanState.code.next c)) (p.next c) rest := by
  rw [scan_step hfeed (by simp [ScanState.startsComment, hslash])]
  simp [delimiterAt?, hbracket]

theorem scan_skipped {piece rest : List Char} (h : Skipped piece rest) (p : Place) :
    scan (some .code) p (piece ++ rest) = scan (some .code) (p.after piece) rest := by
  have hmark : tagMark ≠ '\n' := by decide
  cases h with
  | @tag body rest h =>
    have hnext : ScanState.code.next tagMark = .tag := rfl
    have hlast : ScanState.tag.next tagMark = .code := rfl
    rw [List.append_assoc, List.cons_append, scan_code_step hmark (by decide) rfl, hnext,
      scan_tag_body h, List.singleton_append, scan_inside (by simp) hmark, hlast]
    simp
  | @openTag body h =>
    have hnext : ScanState.code.next tagMark = .tag := rfl
    rw [List.cons_append, scan_code_step hmark (by decide) rfl, hnext, scan_tag_body h]
    simp [scan]
  | @string body rest hline hq hend =>
    have hescaped : endsEscaped false body = false := by
      rw [← Bool.not_eq_true, endsEscaped_false_iff]
      exact hend
    have hnext : ScanState.code.next '"' = .string false := rfl
    have hlast : (ScanState.string false).next '"' = .code := rfl
    rw [List.append_assoc, List.cons_append, scan_code_step (by decide) (by decide) rfl, hnext,
      scan_string_body hline ((quotesEscapedFrom_false_iff body).mpr hq), hescaped,
      List.singleton_append, scan_inside (by simp) (by decide), hlast]
    simp
  | @openString body rest hline hq hend =>
    have hnext : ScanState.code.next '"' = .string false := rfl
    rw [List.cons_append, scan_code_step (by decide) (by decide) rfl, hnext,
      scan_string_body hline ((quotesEscapedFrom_false_iff body).mpr hq), scan_atLineEnd rfl hend,
      Place.after_cons]
  | @comment body rest hline hend =>
    rw [List.cons_append, List.cons_append, scan_comment_start (by decide) rfl,
      scan_in_comment (by decide), scan_comment_body hline, scan_atLineEnd rfl hend]
    rfl

/-! ## Every document has its code delimiters -/

/-- What the description says of a document is what is read. -/
theorem CodeDelimiters.scan_eq {p : Place} {cs : List Char} {ds : List Delimiter}
    (h : CodeDelimiters p cs ds) : scan (some .code) p cs = ds := by
  induction h with
  | done p => rfl
  | skipped h _ ih => rw [scan_skipped h, ih]
  | @bracket p c rest ds b opens h _ ih =>
    have hc : c ≠ '\n' ∧ c ≠ '/' ∧ c ≠ tagMark ∧ c ≠ '"' := by
      refine ⟨?_, ?_, ?_, ?_⟩ <;> rintro rfl <;> simp [bracketOf?, tagMark] at h
    rw [scan_step hc.1 (by simp [ScanState.startsComment, hc.2.1])]
    simp [delimiterAt?, h, ScanState.next, hc.2.2.1, hc.2.2.2, ih]
  | @other p c rest ds hbracket htag hquote hslash _ ih =>
    by_cases hc : c = '\n'
    · subst hc
      rw [scan_feed, ← ih]
      rfl
    · have hstart : ScanState.code.startsComment c rest = false := by
        simpa [ScanState.startsComment] using hslash
      rw [scan_step hc hstart]
      simp [delimiterAt?, hbracket, ScanState.next, htag, hquote, ih]

/-- A line has an end. -/
theorem exists_line_end (cs : List Char) :
    ∃ body rest, cs = body ++ rest ∧ '\n' ∉ body ∧ AtLineEnd rest := by
  by_cases h : '\n' ∈ cs
  · obtain ⟨body, rest, rfl, hbody⟩ := List.eq_append_cons_of_mem h
    exact ⟨body, _, rfl, hbody, by simp [AtLineEnd]⟩
  · exact ⟨cs, [], (List.append_nil cs).symm, h, by simp [AtLineEnd]⟩

/-- A string ends with a quote or with its line. -/
theorem exists_string_end (cs : List Char) (escaped : Bool) :
    ∃ body rest, cs = body ++ rest ∧ '\n' ∉ body ∧ QuotesEscapedFrom escaped body ∧
      (AtLineEnd rest ∨ ∃ more, rest = '"' :: more ∧ endsEscaped escaped body = false) := by
  induction cs generalizing escaped with
  | nil => exact ⟨[], [], rfl, by simp, quotesEscapedFrom_nil _, Or.inl (by simp [AtLineEnd])⟩
  | cons c cs ih =>
    by_cases hfeed : c = '\n'
    · exact ⟨[], c :: cs, rfl, by simp, quotesEscapedFrom_nil _,
        Or.inl (by simp [AtLineEnd, hfeed])⟩
    by_cases hquote : c = '"' ∧ escaped = false
    · exact ⟨[], c :: cs, rfl, by simp, quotesEscapedFrom_nil _,
        Or.inr ⟨cs, by rw [hquote.1], hquote.2⟩⟩
    obtain ⟨body, rest, rfl, hline, hq, hend⟩ := ih (c == '\\')
    refine ⟨c :: body, rest, rfl, by simp [Ne.symm hfeed, hline], ?_, ?_⟩
    · refine quotesEscapedFrom_cons.mpr ⟨fun hc => ?_, hq⟩
      rw [← Bool.not_eq_false]
      exact fun he => hquote ⟨hc, he⟩
    · simpa only [endsEscaped_cons escaped] using hend

/-- A character that opens a tag, a string or a comment begins a piece that is passed over. -/
theorem exists_skipped {c : Char} {rest : List Char}
    (h : c = tagMark ∨ c = '"' ∨ c = '/' ∧ rest.head? = some '/') :
    ∃ piece after, c :: rest = piece ++ after ∧ Skipped piece after ∧ after.length ≤ rest.length := by
  rcases h with rfl | rfl | ⟨rfl, hrest⟩
  · by_cases hmark : tagMark ∈ rest
    · obtain ⟨body, after, rfl, hbody⟩ := List.eq_append_cons_of_mem hmark
      exact ⟨tagMark :: body ++ [tagMark], after, by simp, .tag hbody, by simp; omega⟩
    · exact ⟨tagMark :: rest, [], by simp, .openTag hmark, by simp⟩
  · obtain ⟨body, after, rfl, hline, hq, hend⟩ := exists_string_end rest false
    rw [quotesEscapedFrom_false_iff] at hq
    rcases hend with hend | ⟨more, rfl, hend⟩
    · exact ⟨'"' :: body, after, rfl, .openString hline hq hend, by simp⟩
    · refine ⟨'"' :: body ++ ['"'], more, by simp, .string hline hq ?_, by simp; omega⟩
      rw [ne_eq, ← endsEscaped_false_iff, hend]
      simp
  · obtain ⟨more, rfl⟩ := List.head?_eq_some_iff.mp hrest
    obtain ⟨body, after, rfl, hline, hend⟩ := exists_line_end more
    exact ⟨'/' :: '/' :: body, after, rfl, .comment hline hend, by simp; omega⟩

theorem CodeDelimiters.exists_of_text (p : Place) (cs : List Char) :
    ∃ ds, CodeDelimiters p cs ds := by
  induction hn : cs.length using Nat.strongRecOn generalizing p cs with
  | _ n ih =>
    cases cs with
    | nil => exact ⟨[], .done p⟩
    | cons c rest =>
      rw [List.length_cons] at hn
      by_cases hopen : c = tagMark ∨ c = '"' ∨ c = '/' ∧ rest.head? = some '/'
      · obtain ⟨piece, after, heq, hpiece, hlen⟩ := exists_skipped hopen
        obtain ⟨ds, hds⟩ := ih after.length (by omega) (p.after piece) after rfl
        exact ⟨ds, heq ▸ .skipped hpiece hds⟩
      · obtain ⟨ds, hds⟩ := ih rest.length (by omega) (p.next c) rest rfl
        rw [not_or, not_or, not_and] at hopen
        cases hbracket : bracketOf? c with
        | none => exact ⟨ds, .other hbracket hopen.1 hopen.2.1 hopen.2.2 hds⟩
        | some side => exact ⟨_, .bracket hbracket hds⟩

/-- The code delimiters of a document are those that are read. -/
theorem codeDelimiters_iff (document : List Char) (ds : List Delimiter) :
    CodeDelimiters .start document ds ↔ ds = delimiters document := by
  rw [delimiters_eq_scan]
  constructor
  · intro h
    exact h.scan_eq.symm
  · rintro rfl
    obtain ⟨ds, h⟩ := CodeDelimiters.exists_of_text .start document
    rwa [h.scan_eq]

/-! ## The verdict on a document -/

/-- **Validation.** Every document has one list of code delimiters. The validator accepts the document
iff they form a balanced word. It refuses a closer iff that closer is the first delimiter with which the
prefix can no longer be completed to a balanced word, and it reports the place of what it refuses. -/
theorem RouteValidator.delimiter_verdict (document : String) :
    ∃ ds, (∀ es, CodeDelimiters .start document.toList es ↔ es = ds) ∧
      (RouteValidator.delimiter document = .ok () ↔ Balanced (ds.map Delimiter.side)) ∧
      (∀ d, (∃ fault, checkBalance document.toList = .error fault ∧
        fault.culprit.opens = false ∧ fault.culprit = d) ↔ DeadEnd ds d) ∧
      ∀ fault, checkBalance document.toList = .error fault →
        RouteValidator.delimiter document =
          .error (.ofCause (.rejected fault.culprit.line fault.culprit.column fault.detail)) := by
  refine ⟨delimiters document.toList, codeDelimiters_iff _, ?_,
    exists_culprit_iff_deadEnd (delimiters document.toList), fun fault h => ?_⟩
  · rw [← checkFrom_nil_eq_ok_iff, RouteValidator.delimiter, checkBalance]
    cases checkFrom [] (delimiters document.toList) <;> simp [Except.mapError]
  · rw [RouteValidator.delimiter, h]
    rfl

/-- The quote and the tag hide their brackets, the comment hides the rest of its line; the curly closer
is the first bracket that no continuation can match. -/
example : RouteValidator.delimiter "get (\"\\\")\" \x60(\n\x60 // )\n \x7d" =
    .error (.ofCause (.rejected 3 2 "\x60\x7d\x60 does not close \x60(\x60 opened at 1:5")) := by
  cbv

end TableCodegen
