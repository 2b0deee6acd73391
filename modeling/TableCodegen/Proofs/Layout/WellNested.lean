import TableCodegen.Proofs.Layout.Fragment
import TableCodegen.Proofs.Layout.LineShape
import TableCodegen.Proofs.Text.Word

/-!
# Well-nested lines

The lines of a route document are quiet lines, which leave no bracket open, and lines that open one bracket or
close one bracket and stand around other lines. Here such lines are put together, and the validator is seen
to accept what comes out.

Results:

* `quietLine_of_tame`, `QuietLine.tame_append`, `quietLine_of_mark`: lines that are quiet.
* `openingLine`, `closingLine`: lines around others.
* `WellNested.append`, `WellNested.sides_balanced`, `WellNested.shaped`: well-nested lines.
* `WellNested.delimiter`: the validator accepts a document of well-nested lines.
* `lines_textOfLines`: the lines of a document are those that it is made of.
-/

namespace TableCodegen

open TableCodegen.Text

/-! ## Specification -/

/-- A text without line breaks. -/
structure OneLine (cs : List Char) : Prop where
  feed : '\n' ∉ cs
  carriage : '\r' ∉ cs

instance (cs : List Char) : Decidable (OneLine cs) :=
  decidable_of_iff ('\n' ∉ cs ∧ '\r' ∉ cs) ⟨fun h => ⟨h.1, h.2⟩, fun h => ⟨h.feed, h.carriage⟩⟩

/-- A code that opens no bracket at its end and is no lone closer. -/
structure QuietCode (code : List Char) : Prop where
  opens : endsOpen (trim code) = false
  closer : isLoneCloser (trim code) = false

/-- A line that leaves no bracket open. -/
structure QuietLine (line : List Char) : Prop where
  oneLine : OneLine line
  sides : Balanced (lineSides .code line)
  next : nextLine .code line = .code
  code : QuietCode (codeFrom none line)

/-- A line that opens one bracket, at the end of its code. -/
structure OpeningLine (b : Bracket) (line : List Char) : Prop where
  oneLine : OneLine line
  sides : lineSides .code line = [(b, true)]
  next : nextLine .code line = .code
  opens : endsOpen (codePart line) = true
  closer : isLoneCloser (codePart line) = false

/-- A line that closes one bracket and is nothing else. -/
structure ClosingLine (b : Bracket) (line : List Char) : Prop where
  oneLine : OneLine line
  sides : lineSides .code line = [(b, false)]
  next : nextLine .code line = .code
  opens : endsOpen (codePart line) = false
  closer : isLoneCloser (codePart line) = true

/-- Quiet lines, and lines between an opening and a closing line of one kind. -/
inductive WellNested : List (List Char) → Prop where
  | nil : WellNested []
  | quiet {line : List Char} {ls : List (List Char)} (h : QuietLine line) (rest : WellNested ls) :
      WellNested (line :: ls)
  | enclosed {b : Bracket} {first last : List Char} {body ls : List (List Char)} (hopen : OpeningLine b first)
      (inner : WellNested body) (hclose : ClosingLine b last) (rest : WellNested ls) :
      WellNested (first :: (body ++ last :: ls))

/-! ## Line breaks -/

theorem OneLine.append {u v : List Char} (hu : OneLine u) (hv : OneLine v) : OneLine (u ++ v) := by
  constructor
  · rw [List.mem_append, not_or]
    exact ⟨hu.feed, hv.feed⟩
  · rw [List.mem_append, not_or]
    exact ⟨hu.carriage, hv.carriage⟩

theorem Tame.oneLine {cs : List Char} (h : Tame cs) : OneLine cs :=
  ⟨fun hmem => h '\n' hmem (by decide), fun hmem => h '\r' hmem (by decide)⟩

theorem oneLine_singleLine (text : String) : OneLine (singleLine text).toList :=
  ⟨not_mem_singleLine rfl (by decide) text, not_mem_singleLine rfl (by decide) text⟩

theorem oneLine_quotable (text : String) : OneLine (quotable text).toList := by
  have hbreak : ∀ c : Char, isBlank c = true → c ≠ ' ' → c ≠ '\x27' → c ∉ (quotable text).toList := by
    intro c hblank hspace hquote hmem
    exact (mem_of_mem_quotable hmem).2.elim hquote (not_mem_singleLine hblank hspace text)
  exact ⟨hbreak '\n' rfl (by decide) (by decide), hbreak '\r' rfl (by decide) (by decide)⟩

theorem tame_replicate_tab (depth : Nat) : Tame (List.replicate depth '\t') := by
  intro c hc
  rw [List.eq_of_mem_replicate hc]
  decide

/-! ## Codes -/

theorem endsOpen_concat (code : List Char) (m : Char) :
    endsOpen (code ++ [m]) = true ↔ m = '\x7b' ∨ m = '(' := by
  simp [endsOpen, endsWithChar]

theorem isLoneCloser_concat (code : List Char) (m : Char) :
    isLoneCloser (code ++ [m]) = true ↔ code = [] ∧ (m = '\x7d' ∨ m = ')') := by
  cases code <;> simp [isLoneCloser]

theorem trimStart_eq_nil_iff {cs : List Char} : trimStart cs = [] ↔ AllBlank cs := by
  rw [trimStart, List.dropWhile_eq_nil_iff]
  rfl

/-- What a code ends with, but for blanks, and what stands before that. -/
theorem quietCode_iff {front tail : List Char} {m : Char} (hm : isBlank m = false) (htail : AllBlank tail) :
    QuietCode (front ++ m :: tail) ↔
      ¬ (m = '\x7b' ∨ m = '(') ∧ ¬ (AllBlank front ∧ (m = '\x7d' ∨ m = ')')) := by
  have htrim := trim_last_mark front hm htail
  rw [← trimStart_eq_nil_iff, ← isLoneCloser_concat, ← endsOpen_concat (trimStart front), ← htrim]
  constructor
  · rintro ⟨hopen, hcloser⟩
    exact ⟨by simp [hopen], by simp [hcloser]⟩
  · rintro ⟨hopen, hcloser⟩
    exact ⟨by simpa using hopen, by simpa using hcloser⟩

/-- A code that ends with a mark that is no bracket. -/
theorem quietCode_concat (front : List Char) {m : Char} (hm : isBlank m = false)
    (hbracket : bracketOf? m = none) : QuietCode (front ++ [m]) := by
  rw [quietCode_iff hm AllBlank.nil]
  constructor
  · rintro (rfl | rfl) <;> cases hbracket
  · rintro ⟨-, rfl | rfl⟩ <;> cases hbracket

/-- A code that ends with a closing bracket behind a mark. -/
theorem quietCode_closed {front : List Char} (h : ∃ c ∈ front, isBlank c = false) {m : Char}
    (hm : m = '\x7d' ∨ m = ')') : QuietCode (front ++ [m]) := by
  have hblank : isBlank m = false := by
    rcases hm with rfl | rfl <;> rfl
  rw [quietCode_iff hblank AllBlank.nil]
  constructor
  · rcases hm with rfl | rfl <;> decide
  · rintro ⟨hall, -⟩
    obtain ⟨c, hc, hmark⟩ := h
    rw [hall c hc] at hmark
    cases hmark

/-- A code without brackets is quiet. -/
theorem quietCode_of_tame {code : List Char} (h : Tame code) : QuietCode code := by
  rcases allBlank_or_exists code with hblank | hmark
  · have hnil : trim code = [] := trim_eq_nil_iff.mpr hblank
    constructor
    · rw [hnil]
      rfl
    · rw [hnil]
      rfl
  · obtain ⟨front, m, tail, rfl, hm, htail⟩ := exists_last_mark hmark
    have hmem : m ∉ lineMarks := h m (List.mem_append_right _ List.mem_cons_self)
    rw [quietCode_iff hm htail]
    constructor
    · rintro (rfl | rfl) <;> exact hmem (by decide)
    · rintro ⟨-, rfl | rfl⟩ <;> exact hmem (by decide)

/-- A tame text in front of a quiet code. -/
theorem QuietCode.tame_append {u code : List Char} (hu : Tame u) (h : QuietCode code) :
    QuietCode (u ++ code) := by
  rcases allBlank_or_exists code with hblank | hmark
  · have htrim : trim (u ++ code) = trim u := trim_append_blank hblank u
    have hquiet := quietCode_of_tame hu
    exact ⟨by rw [htrim]; exact hquiet.opens, by rw [htrim]; exact hquiet.closer⟩
  · obtain ⟨front, m, tail, rfl, hm, htail⟩ := exists_last_mark hmark
    rw [quietCode_iff hm htail] at h
    rw [← List.append_assoc, quietCode_iff hm htail]
    refine ⟨h.1, fun hcloser => h.2 ⟨?_, hcloser.2⟩⟩
    exact fun c hc => hcloser.1 c (List.mem_append_right u hc)

/-! ## Quiet lines -/

theorem nextLine_of_lineEnd {line : List Char} (h : lineEnd .code line = .code) :
    nextLine .code line = .code := by
  rw [nextLine, h]
  rfl

/-- A tame text in front of a quiet line; it may start a comment. -/
theorem QuietLine.tame_append {u v : List Char} (hu : Tame u) (hv : v.head? ≠ some '/') (h : QuietLine v) :
    QuietLine (u ++ v) := by
  have hone : OneLine (u ++ v) := hu.oneLine.append h.oneLine
  rcases hu.reads hv with hstop | hpass
  · refine ⟨hone, ?_, nextLine_of_lineEnd hstop.stop, ?_⟩
    · rw [hstop.sides]
      exact .nil
    · exact quietCode_of_tame fun c hc => hu c (hstop.code.subset hc)
  · refine ⟨hone, ?_, ?_, ?_⟩
    · rw [hpass.sides]
      exact h.sides
    · rw [nextLine, hpass.stop]
      exact h.next
    · rw [hpass.code]
      exact h.code.tame_append hu

theorem quietLine_nil : QuietLine [] :=
  ⟨by decide, .nil, rfl, quietCode_of_tame (by decide)⟩

theorem quietLine_of_tame {line : List Char} (h : Tame line) : QuietLine line := by
  have := QuietLine.tame_append h (by simp) quietLine_nil
  rwa [List.append_nil] at this

/-- A line that is gone over, and ends with a mark that is no bracket. -/
theorem quietLine_of_mark {line : List Char} {word : List (Bracket × Bool)} (hone : OneLine line)
    (hline : Fragment line word) (hword : Balanced word) (hquiet : QuietCode line) : QuietLine line := by
  obtain ⟨hsides, hstop, hcode⟩ := hline.line
  refine ⟨hone, ?_, nextLine_of_lineEnd hstop, ?_⟩
  · rw [hsides]
    exact hword
  · rw [hcode]
    exact hquiet

/-- A comment behind a line that is gone over. -/
theorem quietLine_comment {line comment : List Char} {word : List (Bracket × Bool)} (hone : OneLine line)
    (hcomment : OneLine comment) (hline : Fragment line word) (hword : Balanced word) (hquiet : QuietCode line) :
    QuietLine (line ++ ' ' :: '/' :: '/' :: comment) := by
  have hspace : PassesOver [' '] [] ('/' :: '/' :: comment) := (inert_of_isBlank rfl).passesOver _
  have hpass : PassesOver (line ++ [' ']) (word ++ []) ('/' :: '/' :: comment) :=
    (hline _ (by simp)).append hspace
  rw [List.append_nil] at hpass
  have hwhole : line ++ ' ' :: '/' :: '/' :: comment = line ++ [' '] ++ '/' :: '/' :: comment := by simp
  rw [hwhole]
  have hslashes : OneLine [' ', '/', '/'] := by decide
  refine ⟨?_, ?_, ?_, ?_⟩
  · have hall := (hone.append hslashes).append hcomment
    simpa using hall
  · rw [hpass.sides]
    show Balanced (word ++ [])
    rwa [List.append_nil]
  · rw [nextLine, hpass.stop]
    rfl
  · have hblank : AllBlank [' '] := by simp [AllBlank, isBlank]
    have htrim : trim (line ++ [' ']) = trim line := trim_append_blank hblank line
    rw [hpass.code, codeFrom_comment rfl, List.append_nil]
    constructor
    · rw [htrim]
      exact hquiet.opens
    · rw [htrim]
      exact hquiet.closer

/-! ## Opening and closing lines -/

/-- A line that is gone over up to its last mark. -/
theorem codePart_concat {front : List Char} {c : Char} {word : List (Bracket × Bool)}
    (hline : Fragment (front ++ [c]) word) (hmark : isBlank c = false) :
    codePart (front ++ [c]) = trimStart front ++ [c] := by
  rw [codePart, hline.line.2.2]
  exact trim_last_mark front hmark AllBlank.nil

/-- A bracket is a mark, and no line break. -/
theorem mark_of_bracket {c : Char} {b : Bracket} {opens : Bool} (hc : bracketOf? c = some (b, opens)) :
    isBlank c = false ∧ OneLine [c] := by
  rcases bracket_cases hc with ⟨-, rfl | rfl⟩ | ⟨-, rfl | rfl⟩ <;> exact ⟨rfl, by decide⟩

/-- A line that is gone over up to the bracket that it opens. -/
theorem openingLine {front : List Char} {c : Char} {b : Bracket} (hc : bracketOf? c = some (b, true))
    (hone : OneLine front) (hfront : Fragment front []) : OpeningLine b (front ++ [c]) := by
  obtain ⟨hmark, hbreak⟩ := mark_of_bracket hc
  obtain ⟨-, hopen⟩ | ⟨hside, -⟩ := bracket_cases hc
  · have hslash : c ≠ '/' := by
      rcases hopen with rfl | rfl <;> decide
    have hline : Fragment (front ++ [c]) ([] ++ [(b, true)]) :=
      (hfront.append_sealed (sealed_bracket hc) rfl hslash).fragment
    obtain ⟨hsides, hstop, -⟩ := hline.line
    refine ⟨hone.append hbreak, hsides, nextLine_of_lineEnd hstop, ?_, ?_⟩
    · rwa [codePart_concat hline hmark, endsOpen_concat]
    · rw [codePart_concat hline hmark, ← Bool.not_eq_true, isLoneCloser_concat]
      rintro ⟨-, hcloser⟩
      rcases hopen with rfl | rfl <;> simp at hcloser
  · cases hside

/-- A closing bracket behind tabs. -/
theorem closingLine (depth : Nat) {c : Char} {b : Bracket} (hc : bracketOf? c = some (b, false)) :
    ClosingLine b (List.replicate depth '\t' ++ [c]) := by
  obtain ⟨hmark, hbreak⟩ := mark_of_bracket hc
  obtain ⟨hside, -⟩ | ⟨-, hcloser⟩ := bracket_cases hc
  · cases hside
  · have htabs : AllBlank (List.replicate depth '\t') := allBlank_replicate_tab depth
    have hline : Fragment (List.replicate depth '\t' ++ [c]) ([] ++ [(b, false)]) :=
      ((sealed_of_allInert htabs.allInert).append (sealed_bracket hc)).fragment
    obtain ⟨hsides, hstop, -⟩ := hline.line
    refine ⟨(tame_replicate_tab depth).oneLine.append hbreak, hsides, nextLine_of_lineEnd hstop, ?_, ?_⟩
    · rw [codePart_concat hline hmark, ← Bool.not_eq_true, endsOpen_concat]
      rcases hcloser with rfl | rfl <;> simp
    · rw [codePart_concat hline hmark, isLoneCloser_concat]
      exact ⟨trimStart_eq_nil_iff.mpr htabs, hcloser⟩

/-! ## Lines in a row -/

namespace WellNested

theorem append {u v : List (List Char)} (hu : WellNested u) (hv : WellNested v) : WellNested (u ++ v) := by
  induction hu with
  | nil => exact hv
  | quiet h _ ih => exact .quiet h ih
  | enclosed hopen inner hclose _ _ ih =>
    rw [List.cons_append, List.append_assoc, List.cons_append]
    exact .enclosed hopen inner hclose ih

theorem of_quiet {ls : List (List Char)} (h : ∀ line ∈ ls, QuietLine line) : WellNested ls := by
  induction ls with
  | nil => exact .nil
  | cons line ls ih =>
    obtain ⟨hline, hls⟩ := List.forall_mem_cons.mp h
    exact .quiet hline (ih hls)

theorem block {b : Bracket} {first last : List Char} {body : List (List Char)} (hopen : OpeningLine b first)
    (inner : WellNested body) (hclose : ClosingLine b last) : WellNested (first :: (body ++ [last])) :=
  .enclosed hopen inner hclose .nil

theorem oneLine {ls : List (List Char)} (h : WellNested ls) : ∀ line ∈ ls, OneLine line := by
  induction h with
  | nil => exact List.forall_mem_nil _
  | quiet h _ ih => exact List.forall_mem_cons.mpr ⟨h.oneLine, ih⟩
  | enclosed hopen _ hclose _ ihinner ih =>
    refine List.forall_mem_cons.mpr ⟨hopen.oneLine, List.forall_mem_append.mpr ⟨ihinner, ?_⟩⟩
    exact List.forall_mem_cons.mpr ⟨hclose.oneLine, ih⟩

/-- The brackets of well-nested lines pair up, and the next line starts in code. -/
theorem sides_balanced {ls : List (List Char)} (h : WellNested ls) :
    Balanced (sidesFrom .code ls) ∧ nextLines .code ls = .code := by
  induction h with
  | nil => exact ⟨.nil, rfl⟩
  | quiet h _ ih =>
    rw [sidesFrom, nextLines, h.next]
    exact ⟨h.sides.append ih.1, ih.2⟩
  | @enclosed b first last body ls hopen _ hclose _ ihinner ih =>
    rw [sidesFrom, nextLines, hopen.next, sidesFrom_append, nextLines_append, ihinner.2, sidesFrom, nextLines,
      hclose.next, hopen.sides, hclose.sides]
    refine ⟨?_, ih.2⟩
    have hblock := (ihinner.1.enclosed b).append ih.1
    simpa using hblock

/-- The shapes of well-nested lines tell their brackets. -/
theorem shaped {ls : List (List Char)} (h : WellNested ls) : ∀ line ∈ ls, ShapedLine line := by
  induction h with
  | nil => exact List.forall_mem_nil _
  | quiet h _ ih =>
    refine List.forall_mem_cons.mpr ⟨⟨h.next, Or.inr (Or.inl ?_)⟩, ih⟩
    exact ⟨h.code.closer, h.code.opens, h.sides.nesting_eq⟩
  | enclosed hopen _ hclose _ ihinner ih =>
    refine List.forall_mem_cons.mpr ⟨⟨hopen.next, Or.inr (Or.inr ?_)⟩, ?_⟩
    · rw [hopen.sides]
      exact ⟨hopen.closer, hopen.opens, rfl⟩
    · refine List.forall_mem_append.mpr ⟨ihinner, List.forall_mem_cons.mpr ⟨⟨hclose.next, Or.inl ?_⟩, ih⟩⟩
      rw [hclose.sides]
      exact ⟨hclose.closer, hclose.opens, rfl⟩

end WellNested

/-! ## Documents -/

/-- The lines of a document with a line feed behind each of them. -/
theorem intercalate_feed {ls : List (List Char)} (h : ls ≠ []) :
    List.intercalate ['\n'] ls ++ ['\n'] = blockText ls := by
  induction ls with
  | nil => exact absurd rfl h
  | cons line ls ih =>
    cases ls with
    | nil => simp [blockText]
    | cons next ls =>
      have hrest := ih (by simp)
      rw [List.intercalate_cons_cons, List.append_assoc, List.append_assoc, hrest]
      simp [blockText]

theorem toList_textOfLines (ls : List String) :
    (textOfLines ls).toList = trimEnd (List.intercalate ['\n'] (ls.map String.toList)) ++ ['\n'] := by
  rw [textOfLines, String.toList_append, String.toList_ofList, String.toList_intercalate]
  rfl

/-- The validator accepts a document of well-nested lines. -/
theorem WellNested.delimiter {ls : List String} (h : WellNested (ls.map String.toList)) (hne : ls ≠ []) :
    RouteValidator.delimiter (textOfLines ls) = .ok () := by
  have hfeed : AllBlank ['\n'] := by simp [AllBlank, isBlank]
  have hrows : ls.map String.toList ≠ [] := by simpa using hne
  obtain ⟨tail, htail, heq⟩ := exists_trimEnd (List.intercalate ['\n'] (ls.map String.toList))
  have hsides : textSides (some .code) (textOfLines ls).toList = sidesFrom .code (ls.map String.toList) :=
    calc textSides (some .code) (textOfLines ls).toList
        = textSides (some .code) (trimEnd (List.intercalate ['\n'] (ls.map String.toList)) ++ tail) := by
          rw [toList_textOfLines, textSides_append_blank hfeed, textSides_append_blank htail]
      _ = textSides (some .code) (blockText (ls.map String.toList)) := by
          rw [← heq, ← intercalate_feed hrows, textSides_append_blank hfeed]
      _ = sidesFrom .code (ls.map String.toList) :=
          textSides_blockText (fun row hrow => (h.oneLine row hrow).feed) _
  rw [RouteValidator.delimiter_eq_ok_iff, map_side_delimiters_eq_textSides, hsides]
  exact h.sides_balanced.1

/-- A document whose last line is a closing brace has no blanks to cut off. -/
theorem toList_textOfLines_of_closer {ls : List String} {front : List (List Char)}
    (hlast : ls.map String.toList = front ++ [['\x7d']]) :
    (textOfLines ls).toList = blockText (ls.map String.toList) := by
  have hne : ls.map String.toList ≠ [] := by
    rw [hlast]
    simp
  have hend : (List.intercalate ['\n'] (ls.map String.toList)).getLast? = some '\x7d' := by
    have htext : blockText (ls.map String.toList) = blockText front ++ ['\x7d'] ++ ['\n'] := by
      rw [hlast, blockText_append]
      simp [blockText]
    rw [← intercalate_feed hne, List.append_cancel_right_eq] at htext
    rw [htext]
    simp
  have htrim : trimEnd (List.intercalate ['\n'] (ls.map String.toList)) =
      List.intercalate ['\n'] (ls.map String.toList) := by
    refine trimEnd_eq_self fun c hc => ?_
    rw [hend] at hc
    cases hc
    rfl
  rw [toList_textOfLines, htrim, intercalate_feed hne]

/-- The lines of a document are those that it is made of, if the last one ends with a mark. -/
theorem lines_textOfLines {ls : List String} (h : ∀ line ∈ ls.map String.toList, OneLine line)
    (hlast : ∃ front, ls.map String.toList = front ++ [['\x7d']]) :
    lines (textOfLines ls).toList = ls.map String.toList := by
  obtain ⟨front, hfront⟩ := hlast
  rw [toList_textOfLines_of_closer hfront, blockText]
  refine lines_flatMap_feed fun line hline => ⟨(h line hline).feed, fun hreturn => ?_⟩
  exact (h line hline).carriage (List.mem_of_getLast? hreturn)

end TableCodegen
