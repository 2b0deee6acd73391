import TableCodegen.Layout.Pass
import TableCodegen.Proofs.Layout.CodeDelimiter
import TableCodegen.Proofs.Layout.Inert

/-!
# Delimiters without their places

What a layout moves around keeps its delimiters but not their places. Here the delimiters of a line are
their kinds and sides alone, and the lines of a document are read with the state that the lines before
leave behind.

Results:

* `map_side_delimiters`: the sides of the delimiters of a document, line by line.
* `textSides_blockText`: the sides of a text that is put together from lines.
* `textSides_trim`: blanks at the ends of a text hide nothing and hold nothing.
-/

namespace TableCodegen

open TableCodegen.Text

/-- The side of the delimiter that a character of code is. -/
def sideAt? (state : ScanState) (c : Char) : Option (Bracket × Bool) :=
  if state = .code then bracketOf? c else none

/-- The sides of the delimiters of a line. -/
def lineSides : ScanState → List Char → List (Bracket × Bool)
  | _, [] => []
  | state, c :: rest =>
    if state.startsComment c rest then []
    else (sideAt? state c).toList ++ lineSides (state.next c) rest

/-- What the start of the next line is part of. -/
def nextLine (state : ScanState) (line : List Char) : ScanState :=
  (lineEnd state line).acrossLines

/-- The sides of the delimiters of some lines. -/
def sidesFrom : ScanState → List (List Char) → List (Bracket × Bool)
  | _, [] => []
  | state, line :: rest => lineSides state line ++ sidesFrom (nextLine state line) rest

/-- What the start of the line behind some lines is part of. -/
def nextLines : ScanState → List (List Char) → ScanState
  | state, [] => state
  | state, line :: rest => nextLines (nextLine state line) rest

theorem sidesFrom_append (state : ScanState) (u v : List (List Char)) :
    sidesFrom state (u ++ v) = sidesFrom state u ++ sidesFrom (nextLines state u) v := by
  induction u generalizing state with
  | nil => rfl
  | cons line u ih => rw [List.cons_append, sidesFrom, ih, sidesFrom, nextLines, List.append_assoc]

theorem nextLines_append (state : ScanState) (u v : List (List Char)) :
    nextLines state (u ++ v) = nextLines (nextLines state u) v := by
  induction u generalizing state with
  | nil => rfl
  | cons line u ih => exact ih _

/-- A line starts in code or in a tag. -/
def IsLineStart (state : ScanState) : Prop :=
  state.acrossLines = state

theorem isLineStart_nextLine (state : ScanState) (line : List Char) : IsLineStart (nextLine state line) := by
  unfold IsLineStart nextLine
  cases lineEnd state line <;> rfl

theorem isLineStart_code : IsLineStart .code := rfl

/-! ## Places -/

/-- The verdict on a document goes by the sides of its delimiters. -/
theorem RouteValidator.delimiter_eq_ok_iff (document : String) :
    RouteValidator.delimiter document = .ok () ↔
      Balanced ((delimiters document.toList).map Delimiter.side) := by
  rw [← checkFrom_nil_eq_ok_iff, RouteValidator.delimiter, checkBalance]
  cases checkFrom [] (delimiters document.toList) <;> simp [Except.mapError]

theorem map_side_delimiterAt? (state : ScanState) (c : Char) (line column : Nat) :
    (delimiterAt? state c line column).toList.map Delimiter.side = (sideAt? state c).toList := by
  unfold delimiterAt? sideAt?
  split
  · cases bracketOf? c <;> rfl
  · rfl

theorem map_side_lineDelimiters (number column : Nat) (state : ScanState) (line : List Char) :
    (lineDelimiters number column state line).map Delimiter.side = lineSides state line := by
  induction line generalizing column state with
  | nil => rfl
  | cons c line ih =>
    rw [lineDelimiters, lineSides]
    split
    · rfl
    · rw [List.map_append, map_side_delimiterAt?, ih]

theorem map_side_delimitersFrom (number : Nat) (state : ScanState) (ls : List (List Char)) :
    (delimitersFrom number state ls).map Delimiter.side = sidesFrom state ls := by
  induction ls generalizing number state with
  | nil => rfl
  | cons line ls ih =>
    rw [delimitersFrom, List.map_append, map_side_lineDelimiters, ih]
    rfl

theorem map_side_delimiters (document : List Char) :
    (delimiters document).map Delimiter.side = sidesFrom .code (lines document) :=
  map_side_delimitersFrom 1 .code (lines document)

/-- The sides of the delimiters of a text; in a comment there is no state. -/
def textSides : Option ScanState → List Char → List (Bracket × Bool)
  | _, [] => []
  | none, c :: rest => if c = '\n' then textSides (some .code) rest else textSides none rest
  | some state, c :: rest =>
    if c = '\n' then textSides (some state.acrossLines) rest
    else if state.startsComment c rest then textSides none rest
    else (sideAt? state c).toList ++ textSides (some (state.next c)) rest

theorem map_side_scan (state? : Option ScanState) (p : Place) (cs : List Char) :
    (scan state? p cs).map Delimiter.side = textSides state? cs := by
  induction cs generalizing state? p with
  | nil => cases state? <;> rfl
  | cons c cs ih =>
    by_cases hfeed : c = '\n'
    · rw [hfeed, scan_feed, ih]
      cases state? <;> rfl
    · cases state? with
      | none => rw [scan_in_comment hfeed, ih, textSides, if_neg hfeed]
      | some state =>
        rw [textSides, if_neg hfeed]
        cases hs : state.startsComment c cs with
        | true => rw [scan_comment_start hfeed hs, ih, if_pos rfl]
        | false =>
          rw [scan_step hfeed hs, List.map_append, map_side_delimiterAt?, ih, if_neg Bool.false_ne_true]

/-- The delimiters of a text and those of its lines are the same. -/
theorem map_side_delimiters_eq_textSides (document : List Char) :
    (delimiters document).map Delimiter.side = textSides (some .code) document := by
  rw [delimiters_eq_scan, map_side_scan]

/-! ## Texts made of lines -/

theorem textSides_blockText {rows : List (List Char)} (h : ∀ row ∈ rows, '\n' ∉ row)
    (state : ScanState) : textSides (some state) (blockText rows) = sidesFrom state rows := by
  induction rows generalizing state with
  | nil => rfl
  | cons row rows ih =>
    obtain ⟨hrow, hrows⟩ := List.forall_mem_cons.mp h
    have htext : blockText (row :: rows) = row ++ '\n' :: blockText rows := by simp [blockText]
    rw [htext, ← map_side_scan _ .start, scan_line_feed hrow, List.map_append,
      map_side_lineDelimiters, map_side_scan, ih hrows]
    rfl

/-! ## Inert characters -/

theorem Inert.startsComment {c : Char} (h : Inert c) (state : ScanState) (rest : List Char) :
    state.startsComment c rest = false := by
  simp [ScanState.startsComment, h.slash]

theorem Inert.sideAt? {c : Char} (h : Inert c) (state : ScanState) : sideAt? state c = none := by
  unfold TableCodegen.sideAt?
  rw [h.bracket, ite_self]

/-- Behind an inert character: within a string it only ends the force of a backslash. -/
def ScanState.calm : ScanState → ScanState
  | string _ => string false
  | state => state

theorem Inert.next {c : Char} (h : Inert c) (state : ScanState) : state.next c = state.calm := by
  cases state with
  | code => rw [ScanState.next, if_neg h.tag, if_neg h.quote]; rfl
  | tag => rw [ScanState.next, if_neg h.tag]; rfl
  | string afterBackslash => simp [ScanState.next, ScanState.calm, h.quote, h.backslash]

theorem ScanState.calm_calm (state : ScanState) : state.calm.calm = state.calm := by
  cases state <;> rfl

theorem IsLineStart.calm {state : ScanState} (h : IsLineStart state) : state.calm = state := by
  cases state with
  | string afterBackslash => cases h
  | _ => rfl

theorem lineSides_inert_cons {c : Char} (h : Inert c) (state : ScanState) (line : List Char) :
    lineSides state (c :: line) = lineSides state.calm line := by
  rw [lineSides, h.startsComment, if_neg Bool.false_ne_true, h.sideAt?, h.next]
  rfl

theorem lineEnd_inert_cons {c : Char} (h : Inert c) (state : ScanState) (line : List Char) :
    lineEnd state (c :: line) = lineEnd state.calm line := by
  rw [lineEnd, h.startsComment, if_neg Bool.false_ne_true, h.next]

theorem lineSides_allInert {cs : List Char} (h : AllInert cs) (state : ScanState) :
    lineSides state cs = [] := by
  induction cs generalizing state with
  | nil => rfl
  | cons c cs ih =>
    obtain ⟨hc, hcs⟩ := List.forall_mem_cons.mp h
    rw [lineSides_inert_cons hc, ih hcs]

theorem nextLine_allInert {cs : List Char} (h : AllInert cs) (state : ScanState) :
    nextLine state cs = state.acrossLines := by
  induction cs generalizing state with
  | nil => rfl
  | cons c cs ih =>
    obtain ⟨hc, hcs⟩ := List.forall_mem_cons.mp h
    rw [nextLine, lineEnd_inert_cons hc]
    exact (ih hcs _).trans (by cases state <;> rfl)

/-! ## Blanks -/

/-- Blanks at the start of a line are passed over. -/
theorem lineSides_blank_append {lead : List Char} (h : AllBlank lead) {state : ScanState}
    (hstate : IsLineStart state) (line : List Char) : lineSides state (lead ++ line) = lineSides state line := by
  induction lead with
  | nil => rfl
  | cons c lead ih =>
    obtain ⟨hc, hlead⟩ := h.of_cons
    rw [List.cons_append, lineSides_inert_cons (inert_of_isBlank hc), hstate.calm, ih hlead]

theorem nextLine_blank_append {lead : List Char} (h : AllBlank lead) {state : ScanState}
    (hstate : IsLineStart state) (line : List Char) : nextLine state (lead ++ line) = nextLine state line := by
  induction lead with
  | nil => rfl
  | cons c lead ih =>
    obtain ⟨hc, hlead⟩ := h.of_cons
    have hstep := lineEnd_inert_cons (inert_of_isBlank hc) state (lead ++ line)
    rw [List.cons_append, nextLine, hstep, hstate.calm]
    exact ih hlead

theorem head?_ne_slash {tail : List Char} (h : AllBlank tail) : tail.head? ≠ some '/' := by
  cases tail with
  | nil => simp
  | cons c tail => simpa using (inert_of_isBlank h.of_cons.1).slash

theorem lineSides_append_blank {tail : List Char} (h : AllBlank tail) (state : ScanState)
    (line : List Char) : lineSides state (line ++ tail) = lineSides state line := by
  induction line generalizing state with
  | nil => exact lineSides_allInert h.allInert state
  | cons c line ih =>
    rw [List.cons_append, lineSides, lineSides, startsComment_append _ _ (head?_ne_slash h), ih]

theorem nextLine_append_blank {tail : List Char} (h : AllBlank tail) (state : ScanState)
    (line : List Char) : nextLine state (line ++ tail) = nextLine state line := by
  induction line generalizing state with
  | nil => exact nextLine_allInert h.allInert state
  | cons c line ih =>
    unfold nextLine at ih ⊢
    rw [List.cons_append, lineEnd, lineEnd, startsComment_append _ _ (head?_ne_slash h)]
    split
    · rfl
    · exact ih _

theorem textSides_allBlank {tail : List Char} (h : AllBlank tail) (state? : Option ScanState) :
    textSides state? tail = [] := by
  induction tail generalizing state? with
  | nil => cases state? <;> rfl
  | cons c tail ih =>
    obtain ⟨hc, htail⟩ := h.of_cons
    have hinert := inert_of_isBlank hc
    cases state? with
    | none => rw [textSides, ih htail, ih htail, ite_self]
    | some state =>
      rw [textSides, hinert.startsComment, if_neg Bool.false_ne_true, hinert.sideAt?, ih htail, ih htail]
      exact ite_self _

theorem textSides_append_blank {tail : List Char} (h : AllBlank tail) (state? : Option ScanState)
    (cs : List Char) : textSides state? (cs ++ tail) = textSides state? cs := by
  induction cs generalizing state? with
  | nil =>
    rw [List.nil_append, textSides_allBlank h]
    cases state? <;> rfl
  | cons c cs ih =>
    cases state? with
    | none => rw [List.cons_append, textSides, textSides, ih, ih]
    | some state =>
      rw [List.cons_append, textSides, textSides, startsComment_append _ _ (head?_ne_slash h), ih, ih, ih]

theorem textSides_blank_append {lead : List Char} (h : AllBlank lead) (cs : List Char) :
    textSides (some .code) (lead ++ cs) = textSides (some .code) cs := by
  induction lead with
  | nil => rfl
  | cons c lead ih =>
    obtain ⟨hc, hlead⟩ := h.of_cons
    have hinert := inert_of_isBlank hc
    rw [List.cons_append, textSides, hinert.startsComment, if_neg Bool.false_ne_true, hinert.sideAt?,
      hinert.next]
    change (if c = '\n' then textSides (some .code) (lead ++ cs) else textSides (some .code) (lead ++ cs)) = _
    rw [ite_self, ih hlead]

theorem textSides_trim (cs : List Char) : textSides (some .code) (trim cs) = textSides (some .code) cs := by
  obtain ⟨lead, tail, hlead, htail, heq⟩ := exists_trim cs
  have hlong : textSides (some .code) (lead ++ trim cs ++ tail) = textSides (some .code) (trim cs) := by
    rw [textSides_append_blank htail, textSides_blank_append hlead]
  rw [← heq] at hlong
  exact hlong.symm

end TableCodegen
