import TableCodegen.Proofs.Layout.BlockLine
import TableCodegen.Proofs.Text.Line

/-!
# Outlines of documents

The layout takes a document in line by line, and remembers the lines of the block it is in. Here a document
is taken apart at once: a part is a line outside blocks, or all the lines of a block. `Laid` says what the
layout makes of the parts, with one rule for every kind of part.

Results:

* `exists_laid`: every document has an outline, and the layout makes of the document what the rules say.
* `Laid.piecesFrom_eq`: the rules say nothing else.
* `Laid.text_eq`: the text of the pieces when the formatter changes nothing.
* `layOut_verbatim`: the layout of a document is that text, without blanks at its ends.
* `Laid.sources_eq`: the formatter is given the blocks of the outline.
* `submitted_append`: up to the first block that it refuses.
* `Laid.exists_split`: the parts of a document are laid out one by one.
-/

namespace TableCodegen

open TableCodegen.Text

/-! ## Specification -/

/-- A part of a document: a line outside blocks, or the lines of a block. -/
inductive Part where
  | line (raw : List Char)
  | block (first : List Char) (rest : List (List Char))
  deriving Repr, DecidableEq

/-- The lines of a part. -/
def Part.lines : Part → List (List Char)
  | line raw => [raw]
  | block first rest => first :: rest

/-- The brackets that are open behind a line of a block, by its shape. -/
def depthBehind (depth : Nat) (line : List Char) : Nat :=
  let opened := if endsOpen (codePart line) then depth + 1 else depth
  if isLoneCloser (codePart line) then opened - 1 else opened

/-- The last of the lines is the first behind which no bracket of the block is open. -/
inductive Closes : Nat → List (List Char) → Prop where
  | last {depth : Nat} {line : List Char} (h : depthBehind depth line = 0) : Closes depth [line]
  | more {depth : Nat} {line : List Char} {rest : List (List Char)} (h : depthBehind depth line ≠ 0)
      (hrest : Closes (depthBehind depth line) rest) : Closes depth (line :: rest)

/-- Behind each of the lines a bracket of the block is open; `final` are open at the end. -/
inductive StaysOpen : Nat → List (List Char) → Nat → Prop where
  | nil (depth : Nat) : StaysOpen depth [] depth
  | cons {depth final : Nat} {line : List Char} {rest : List (List Char)}
      (h : depthBehind depth line ≠ 0) (hrest : StaysOpen (depthBehind depth line) rest final) :
      StaysOpen depth (line :: rest) final

namespace Surroundings

/-- The blank line that a closing brace asks for. -/
def gap (around : Surroundings) : List Piece :=
  if around.afterBrace then [.blank] else []

/-- The depth of a line: a lone closer stands where its opener stands. -/
def depthOf (around : Surroundings) (line : List Char) : Nat :=
  if isLoneCloser (codePart line) then around.indent - 1 else around.indent

/-- What a line outside blocks leaves behind. -/
def behind (around : Surroundings) (line : List Char) : Surroundings where
  indent := if endsOpen (codePart line) then around.depthOf line + 1 else around.depthOf line
  afterBlank := false
  afterBrace := line = ['\x7d']

/-- What a blank line leaves behind. -/
def behindBlank (around : Surroundings) : Surroundings :=
  { around with afterBlank := true, afterBrace := false }

/-- What a block leaves behind: the memory of a closing brace is the same as before it. -/
def behindBlock (around : Surroundings) : Surroundings :=
  { around with afterBlank := false }

end Surroundings

/-- The line opens a block of types. -/
def Opens (around : Surroundings) (raw : List Char) : Prop :=
  around.indent = 0 ∧ opensBlock (codePart raw) = true

/-- The lines of a block as the layout collects them: the first without blanks at its ends. -/
def blockLines (first : List Char) (rest : List (List Char)) : List (List Char) :=
  trim first :: rest

/-- What the layout makes of the parts of a document: the pieces, the lines of the text when the formatter
changes nothing, and the state at the end. -/
inductive Laid : Surroundings → List Part → List Piece → List (List Char) → LayoutState → Prop where
  | done (around : Surroundings) : Laid around [] [] [] (.outside around)
  /-- A blank line behind a blank line. -/
  | again {around : Surroundings} {raw : List Char} {parts : List Part} {pieces : List Piece}
      {rows : List (List Char)} {final : LayoutState} (hraw : trim raw = [])
      (hblank : around.afterBlank = true) (hrest : Laid around parts pieces rows final) :
      Laid around (.line raw :: parts) pieces rows final
  | blank {around : Surroundings} {raw : List Char} {parts : List Part} {pieces : List Piece}
      {rows : List (List Char)} {final : LayoutState} (hraw : trim raw = [])
      (hblank : around.afterBlank = false) (hrest : Laid around.behindBlank parts pieces rows final) :
      Laid around (.line raw :: parts) (.blank :: pieces) ([] :: rows) final
  | text {around : Surroundings} {raw : List Char} {parts : List Part} {pieces : List Piece}
      {rows : List (List Char)} {final : LayoutState} (hraw : trim raw ≠ [])
      (hopen : ¬ Opens around raw) (hrest : Laid (around.behind (trim raw)) parts pieces rows final) :
      Laid around (.line raw :: parts)
        (around.gap ++ .line (around.depthOf (trim raw)) (trim raw) :: pieces)
        (around.gap.map (fun _ => []) ++
          (List.replicate (around.depthOf (trim raw)) '\t' ++ trim raw) :: rows) final
  | block {around : Surroundings} {first : List Char} {rest : List (List Char)} {parts : List Part}
      {pieces : List Piece} {rows : List (List Char)} {final : LayoutState}
      (hopen : Opens around first) (hclose : Closes 0 (first :: rest))
      (hrest : Laid around.behindBlock parts pieces rows final) :
      Laid around (.block first rest :: parts)
        (around.gap ++ .block (blockText ((blockLines first rest).map blockLine)) :: pieces)
        (around.gap.map (fun _ => []) ++ (blockLines first rest).map settledLine ++ rows) final
  /-- A block that the document leaves open. -/
  | unclosed {around : Surroundings} {first : List Char} {rest : List (List Char)} {depth : Nat}
      (hopen : Opens around first) (hstay : StaysOpen 0 (first :: rest) depth) :
      Laid around [.block first rest]
        (around.gap ++ [.block (blockText ((blockLines first rest).map blockLine))])
        (around.gap.map (fun _ => []) ++ (blockLines first rest).map settledLine)
        (.inside around.behindBlock ((blockLines first rest).map blockLine) depth)

/-! ## States -/

namespace LayoutState

/-- The state behind some lines. -/
def after : LayoutState → List (List Char) → LayoutState
  | state, [] => state
  | state, line :: rest => (state.feed line).2.after rest

theorem piecesFrom_cons (state : LayoutState) (line : List Char) (rest : List (List Char)) :
    state.piecesFrom (line :: rest) = (state.feed line).1 ++ (state.feed line).2.piecesFrom rest := by
  cases state <;> rfl

theorem after_append (state : LayoutState) (u v : List (List Char)) :
    state.after (u ++ v) = (state.after u).after v := by
  induction u generalizing state with
  | nil => rfl
  | cons line u ih => exact ih _

theorem feedInside_eq (around : Surroundings) (held : List (List Char)) (depth : Nat)
    (line : List Char) :
    feedInside around held depth line =
      if depthBehind depth line = 0 then ([.block (blockText (held ++ [blockLine line]))], .outside around)
      else ([], .inside around (held ++ [blockLine line]) (depthBehind depth line)) := rfl

theorem feedLine_eq (around : Surroundings) (line : List Char) :
    feedLine around line =
      ([.line (around.depthOf line) line], .outside (around.behind line)) := rfl

theorem feedOutside_again {around : Surroundings} {raw : List Char} (hraw : trim raw = [])
    (hblank : around.afterBlank = true) : feedOutside around raw = ([], .outside around) := by
  unfold feedOutside
  rw [hraw, hblank]
  rfl

theorem feedOutside_blank {around : Surroundings} {raw : List Char} (hraw : trim raw = [])
    (hblank : around.afterBlank = false) :
    feedOutside around raw = ([.blank], .outside around.behindBlank) := by
  unfold feedOutside
  rw [hraw, hblank]
  rfl

theorem feedOutside_text {around : Surroundings} {raw : List Char} (hraw : trim raw ≠ [])
    (hopen : ¬ Opens around raw) :
    feedOutside around raw = (around.gap ++ [.line (around.depthOf (trim raw)) (trim raw)],
      .outside (around.behind (trim raw))) := by
  unfold Opens at hopen
  have hempty : (trim raw).isEmpty = false := by simpa using hraw
  have hno : ¬ (around.indent = 0 && opensBlock (codePart (trim raw))) = true := by
    simpa using hopen
  unfold feedOutside
  simp only [hempty, Bool.false_eq_true, if_false, if_neg hno, feedLine_eq]
  rfl

/-- The first line of a block opens one bracket. -/
theorem depthBehind_opener {code : List Char} {line : List Char} (hcode : codePart line = code)
    (h : opensBlock code = true) : depthBehind 0 line = 1 := by
  unfold opensBlock at h
  rw [Bool.and_eq_true] at h
  obtain ⟨hhead, hopen⟩ := h
  have hcloser : isLoneCloser code = false := by
    rw [← Bool.not_eq_true]
    intro hcloser
    unfold isLoneCloser at hcloser
    rw [Bool.or_eq_true, decide_eq_true_eq, decide_eq_true_eq] at hcloser
    rcases hcloser with rfl | rfl <;> exact absurd hopen (by decide)
  unfold depthBehind
  simp only [hcode, hopen, hcloser, if_true, Bool.false_eq_true, if_false]

theorem feedOutside_opener {around : Surroundings} {raw : List Char} (hopen : Opens around raw) :
    feedOutside around raw =
      (around.gap, .inside around.behindBlock [blockLine (trim raw)] 1) := by
  obtain ⟨hindent, hblock⟩ := hopen
  have hraw : trim raw ≠ [] := by
    intro hraw
    rw [← codePart_trim, hraw] at hblock
    exact absurd hblock (by decide)
  have hempty : (trim raw).isEmpty = false := by simpa using hraw
  have hyes : (around.indent = 0 && opensBlock (codePart (trim raw))) = true := by
    simpa using ⟨hindent, hblock⟩
  have hdepth : depthBehind 0 (trim raw) = 1 := depthBehind_opener (codePart_trim raw) hblock
  unfold feedOutside
  simp only [hempty, Bool.false_eq_true, if_false, if_pos hyes, feedInside_eq, hdepth]
  simp [Surroundings.gap, Surroundings.behindBlock]

/-! ## Blocks as a whole -/

theorem piecesFrom_closes {depth : Nat} {body : List (List Char)} (h : Closes depth body)
    (around : Surroundings) (held rest : List (List Char)) :
    (inside around held depth).piecesFrom (body ++ rest) =
      .block (blockText (held ++ body.map blockLine)) :: (outside around).piecesFrom rest := by
  induction h generalizing held with
  | last h =>
    rw [List.singleton_append, piecesFrom_cons, feed, feedInside_eq, if_pos h]
    rfl
  | more h _ ih =>
    rw [List.cons_append, piecesFrom_cons, feed, feedInside_eq, if_neg h, List.nil_append, ih]
    simp

theorem after_closes {depth : Nat} {body : List (List Char)} (h : Closes depth body)
    (around : Surroundings) (held : List (List Char)) :
    (inside around held depth).after body = outside around := by
  induction h generalizing held with
  | last h =>
    rw [after, after, feed, feedInside_eq, if_pos h]
  | more h _ ih =>
    rw [after, feed, feedInside_eq, if_neg h]
    exact ih _

theorem piecesFrom_staysOpen {depth final : Nat} {body : List (List Char)}
    (h : StaysOpen depth body final) (around : Surroundings) (held : List (List Char)) :
    (inside around held depth).piecesFrom body = [.block (blockText (held ++ body.map blockLine))] := by
  induction h generalizing held with
  | nil depth => simp [piecesFrom]
  | cons h _ ih =>
    rw [piecesFrom_cons, feed, feedInside_eq, if_neg h, List.nil_append, ih]
    simp

theorem after_staysOpen {depth final : Nat} {body : List (List Char)}
    (h : StaysOpen depth body final) (around : Surroundings) (held : List (List Char)) :
    (inside around held depth).after body = inside around (held ++ body.map blockLine) final := by
  induction h generalizing held with
  | nil depth => simp [after]
  | cons h _ ih =>
    rw [after, feed, feedInside_eq, if_neg h]
    simp [ih]

end LayoutState

/-- Some line is the first behind which no bracket is open, or there is none. -/
theorem closes_or_staysOpen (depth : Nat) (ls : List (List Char)) :
    (∃ body rest, ls = body ++ rest ∧ Closes depth body) ∨ ∃ final, StaysOpen depth ls final := by
  induction ls generalizing depth with
  | nil => exact Or.inr ⟨depth, .nil depth⟩
  | cons line ls ih =>
    by_cases h : depthBehind depth line = 0
    · exact Or.inl ⟨[line], ls, rfl, .last h⟩
    · rcases ih (depthBehind depth line) with ⟨body, rest, rfl, hbody⟩ | ⟨final, hopen⟩
      · exact Or.inl ⟨line :: body, rest, rfl, .more h hbody⟩
      · exact Or.inr ⟨final, .cons h hopen⟩

/-! ## Every document has an outline -/

theorem exists_laid (around : Surroundings) (ls : List (List Char)) :
    ∃ parts rows, parts.flatMap Part.lines = ls ∧
      Laid around parts ((LayoutState.outside around).piecesFrom ls) rows
        ((LayoutState.outside around).after ls) := by
  induction hn : ls.length using Nat.strongRecOn generalizing around ls with
  | _ n ih =>
    cases ls with
    | nil => exact ⟨[], [], rfl, .done around⟩
    | cons raw ls =>
      rw [List.length_cons] at hn
      rw [LayoutState.piecesFrom_cons, LayoutState.after, LayoutState.feed]
      by_cases hopen : Opens around raw
      · have hone : depthBehind 0 raw = 1 := LayoutState.depthBehind_opener rfl hopen.2
        rw [LayoutState.feedOutside_opener hopen]
        rcases closes_or_staysOpen 1 ls with ⟨body, rest, rfl, hbody⟩ | ⟨final, hstay⟩
        · have hlen : rest.length < n := by
            rw [List.length_append] at hn
            omega
          obtain ⟨parts, rows, rfl, hlaid⟩ := ih _ hlen around.behindBlock rest rfl
          have hcloses : Closes 0 (raw :: body) := .more (by rw [hone]; decide) (by rwa [hone])
          refine ⟨.block raw body :: parts,
            around.gap.map (fun _ => []) ++ (blockLines raw body).map settledLine ++ rows, rfl, ?_⟩
          rw [LayoutState.after_append, LayoutState.after_closes hbody,
            LayoutState.piecesFrom_closes hbody]
          exact .block hopen hcloses hlaid
        · have hstays : StaysOpen 0 (raw :: ls) final := .cons (by rw [hone]; decide) (by rwa [hone])
          refine ⟨[.block raw ls],
            around.gap.map (fun _ => []) ++ (blockLines raw ls).map settledLine, by simp [Part.lines], ?_⟩
          rw [LayoutState.after_staysOpen hstay, LayoutState.piecesFrom_staysOpen hstay]
          exact .unclosed hopen hstays
      · by_cases hraw : trim raw = []
        · cases hblank : around.afterBlank with
          | true =>
            obtain ⟨parts, rows, rfl, hlaid⟩ := ih ls.length (by omega) around ls rfl
            rw [LayoutState.feedOutside_again hraw hblank]
            exact ⟨.line raw :: parts, rows, rfl, .again hraw hblank hlaid⟩
          | false =>
            obtain ⟨parts, rows, rfl, hlaid⟩ := ih ls.length (by omega) around.behindBlank ls rfl
            rw [LayoutState.feedOutside_blank hraw hblank]
            exact ⟨.line raw :: parts, [] :: rows, rfl, .blank hraw hblank hlaid⟩
        · obtain ⟨parts, rows, rfl, hlaid⟩ := ih ls.length (by omega) (around.behind (trim raw)) ls rfl
          rw [LayoutState.feedOutside_text hraw hopen]
          refine ⟨.line raw :: parts, around.gap.map (fun _ => []) ++
            (List.replicate (around.depthOf (trim raw)) '\t' ++ trim raw) :: rows, rfl, ?_⟩
          rw [List.append_assoc]
          exact .text hraw hopen hlaid

/-! ## Text without a formatter -/

/-- The text of a piece when the formatter changes nothing. -/
def Piece.settledText : Piece → List Char
  | blank => ['\n']
  | line depth text => List.replicate depth '\t' ++ text ++ ['\n']
  | block source => withFinalFeed (withoutKeyword source)

theorem Piece.text_verbatim (piece : Piece) : piece.text .verbatim = .ok piece.settledText := by
  cases piece with
  | blank => rfl
  | line depth text => rfl
  | block source =>
    change Except.ok (withFinalFeed (withoutKeyword (String.ofList source).toList)) = _
    rw [String.toList_ofList]
    rfl

theorem layOut_verbatim (document : String) :
    layOut .verbatim document =
      .ok (String.ofList (trim ((pieces document.toList).flatMap Piece.settledText))) := by
  have htext : (fun piece : Piece => piece.text .verbatim) =
      fun piece => (pure piece.settledText : Except Failure (List Char)) := funext Piece.text_verbatim
  have hmap : (pieces document.toList).mapM (·.text .verbatim) =
      .ok ((pieces document.toList).map Piece.settledText) := by
    rw [htext]
    exact List.mapM_pure
  unfold layOut
  rw [hmap, List.flatMap_def]
  rfl

theorem blockText_append (u v : List (List Char)) : blockText (u ++ v) = blockText u ++ blockText v :=
  List.flatMap_append

theorem withFinalFeed_blockText {ls : List (List Char)} (h : ls ≠ []) :
    withFinalFeed (blockText ls) = blockText ls := by
  obtain ⟨init, last, rfl⟩ := (List.eq_nil_or_concat ls).resolve_left h
  have hend : endsWithChar '\n' (blockText (init.concat last)) = true := by
    rw [List.concat_eq_append, blockText_append]
    simp [endsWithChar, blockText]
  rw [withFinalFeed, if_pos hend]

theorem Piece.settledText_block (first : List Char) (rest : List (List Char)) :
    (Piece.block (blockText ((blockLines first rest).map blockLine))).settledText =
      blockText ((blockLines first rest).map settledLine) := by
  rw [settledText, withoutKeyword_blockText, List.map_map]
  exact withFinalFeed_blockText (by simp [blockLines])

theorem Surroundings.text_gap (around : Surroundings) :
    around.gap.flatMap Piece.settledText = blockText (around.gap.map fun _ => []) := by
  unfold gap
  cases around.afterBrace <;> rfl

/-- The lines of the text, each ended with a line feed, are the text of the pieces. -/
theorem Laid.text_eq {around : Surroundings} {parts : List Part} {pieces : List Piece}
    {rows : List (List Char)} {final : LayoutState} (h : Laid around parts pieces rows final) :
    pieces.flatMap Piece.settledText = blockText rows := by
  induction h with
  | done around => rfl
  | again _ _ _ ih => exact ih
  | blank _ _ _ ih => rw [List.flatMap_cons, ih, blockText_cons]; rfl
  | text _ _ _ ih =>
    rw [List.flatMap_append, List.flatMap_cons, ih, Surroundings.text_gap, blockText_append,
      blockText_cons]
    simp [Piece.settledText]
  | block _ _ _ ih =>
    rw [List.flatMap_append, List.flatMap_cons, ih, Surroundings.text_gap, blockText_append,
      blockText_append, Piece.settledText_block, List.append_assoc]
  | unclosed _ _ =>
    rw [List.flatMap_append, List.flatMap_singleton, Surroundings.text_gap, blockText_append,
      Piece.settledText_block]

/-- What the lines of a document have in common, and what neither blanks nor the formatter take away, the
lines of the text have in common. -/
theorem Laid.forall_rows {around : Surroundings} {parts : List Part} {pieces : List Piece}
    {rows : List (List Char)} {final : LayoutState} (h : Laid around parts pieces rows final)
    {P : List Char → Prop} (hnil : P []) (htrim : ∀ line, P line → P (trim line))
    (hindent : ∀ depth line, P line → P (List.replicate depth '\t' ++ line))
    (hsettled : ∀ line, P line → P (settledLine line))
    (hlines : ∀ line ∈ parts.flatMap Part.lines, P line) : ∀ row ∈ rows, P row := by
  have hgap : ∀ around : Surroundings, ∀ row ∈ around.gap.map (fun _ => ([] : List Char)), P row := by
    intro around row hrow
    obtain ⟨-, -, rfl⟩ := List.mem_map.mp hrow
    exact hnil
  have hblock : ∀ first rest, (∀ line ∈ first :: rest, P line) →
      ∀ row ∈ (blockLines first rest).map settledLine, P row := by
    intro first rest hlines row hrow
    obtain ⟨line, hline, rfl⟩ := List.mem_map.mp hrow
    refine hsettled line ?_
    rcases List.mem_cons.mp hline with rfl | hline
    · exact htrim first (hlines first List.mem_cons_self)
    · exact hlines line (List.mem_cons_of_mem first hline)
  induction h with
  | done around => exact List.forall_mem_nil _
  | again _ _ _ ih => exact ih fun line hline => hlines line (List.mem_append_right _ hline)
  | blank _ _ _ ih =>
    have hrest := ih fun line hline => hlines line (List.mem_append_right _ hline)
    exact List.forall_mem_cons.mpr ⟨hnil, hrest⟩
  | @text around raw _ _ _ _ _ _ _ ih =>
    have hraw : P (trim raw) := htrim raw (hlines raw List.mem_cons_self)
    have hrest := ih fun line hline => hlines line (List.mem_append_right _ hline)
    exact List.forall_mem_append.mpr ⟨hgap around, List.forall_mem_cons.mpr ⟨hindent _ _ hraw, hrest⟩⟩
  | @block around first rest _ _ _ _ _ _ _ ih =>
    have hown := hblock first rest fun line hline => hlines line (List.mem_append_left _ hline)
    have hrest := ih fun line hline => hlines line (List.mem_append_right _ hline)
    exact List.forall_mem_append.mpr ⟨List.forall_mem_append.mpr ⟨hgap around, hown⟩, hrest⟩
  | @unclosed around first rest _ _ _ =>
    have hown := hblock first rest fun line hline => hlines line (List.mem_append_left _ hline)
    exact List.forall_mem_append.mpr ⟨hgap around, hown⟩

/-- The lines of the text hold no line break if the lines of the document hold none. -/
theorem Laid.not_mem_rows {around : Surroundings} {parts : List Part} {pieces : List Piece}
    {rows : List (List Char)} {final : LayoutState} (h : Laid around parts pieces rows final) {c : Char}
    (hc : c = '\n' ∨ c = '\r') (hlines : ∀ line ∈ parts.flatMap Part.lines, c ∉ line) :
    ∀ row ∈ rows, c ∉ row := by
  have htab : c ≠ '\t' := by rcases hc with rfl | rfl <;> decide
  refine h.forall_rows List.not_mem_nil (fun line hline hmem => ?_) (fun depth line hline hmem => ?_)
    (fun line hline => not_mem_settledLine hc hline) hlines
  · exact hline ((trim_isInfix line).subset hmem)
  · rcases List.mem_append.mp hmem with hmem | hmem
    · exact htab (List.eq_of_mem_replicate hmem)
    · exact hline hmem

/-! ## The rules say what the layout does -/

/-- The pieces of the rules are the pieces of the lines. -/
theorem Laid.piecesFrom_eq {around : Surroundings} {parts : List Part} {pieces : List Piece}
    {rows : List (List Char)} {final : LayoutState} (h : Laid around parts pieces rows final) :
    (LayoutState.outside around).piecesFrom (parts.flatMap Part.lines) = pieces := by
  induction h with
  | done around => rfl
  | again hraw hblank _ ih =>
    rw [List.flatMap_cons, Part.lines, List.singleton_append, LayoutState.piecesFrom_cons,
      LayoutState.feed, LayoutState.feedOutside_again hraw hblank, ih, List.nil_append]
  | blank hraw hblank _ ih =>
    rw [List.flatMap_cons, Part.lines, List.singleton_append, LayoutState.piecesFrom_cons,
      LayoutState.feed, LayoutState.feedOutside_blank hraw hblank, ih, List.singleton_append]
  | text hraw hopen _ ih =>
    rw [List.flatMap_cons, Part.lines, List.singleton_append, LayoutState.piecesFrom_cons,
      LayoutState.feed, LayoutState.feedOutside_text hraw hopen, ih, List.append_assoc,
      List.singleton_append]
  | @block around first rest _ _ _ _ hopen hclose _ ih =>
    have hone : depthBehind 0 first = 1 := LayoutState.depthBehind_opener rfl hopen.2
    cases hclose with
    | last hdepth => rw [hone] at hdepth; cases hdepth
    | more _ hrest =>
      rw [hone] at hrest
      rw [List.flatMap_cons, Part.lines, List.cons_append, LayoutState.piecesFrom_cons,
        LayoutState.feed, LayoutState.feedOutside_opener hopen, LayoutState.piecesFrom_closes hrest, ih]
      rfl
  | @unclosed around first rest _ hopen hstay =>
    have hone : depthBehind 0 first = 1 := LayoutState.depthBehind_opener rfl hopen.2
    cases hstay with
    | cons _ hrest =>
      rw [hone] at hrest
      rw [List.flatMap_singleton, Part.lines, LayoutState.piecesFrom_cons, LayoutState.feed,
        LayoutState.feedOutside_opener hopen, LayoutState.piecesFrom_staysOpen hrest]
      rfl

/-- The state of the rules is the state behind the lines. -/
theorem Laid.after_eq {around : Surroundings} {parts : List Part} {pieces : List Piece}
    {rows : List (List Char)} {final : LayoutState} (h : Laid around parts pieces rows final) :
    (LayoutState.outside around).after (parts.flatMap Part.lines) = final := by
  induction h with
  | done around => rfl
  | again hraw hblank _ ih =>
    rw [List.flatMap_cons, Part.lines, List.singleton_append, LayoutState.after, LayoutState.feed,
      LayoutState.feedOutside_again hraw hblank, ih]
  | blank hraw hblank _ ih =>
    rw [List.flatMap_cons, Part.lines, List.singleton_append, LayoutState.after, LayoutState.feed,
      LayoutState.feedOutside_blank hraw hblank, ih]
  | text hraw hopen _ ih =>
    rw [List.flatMap_cons, Part.lines, List.singleton_append, LayoutState.after, LayoutState.feed,
      LayoutState.feedOutside_text hraw hopen, ih]
  | @block around first rest _ _ _ _ hopen hclose _ ih =>
    have hone : depthBehind 0 first = 1 := LayoutState.depthBehind_opener rfl hopen.2
    cases hclose with
    | last hdepth => rw [hone] at hdepth; cases hdepth
    | more _ hrest =>
      rw [hone] at hrest
      rw [List.flatMap_cons, Part.lines, List.cons_append, LayoutState.after, LayoutState.feed,
        LayoutState.feedOutside_opener hopen, LayoutState.after_append, LayoutState.after_closes hrest, ih]
  | @unclosed around first rest _ hopen hstay =>
    have hone : depthBehind 0 first = 1 := LayoutState.depthBehind_opener rfl hopen.2
    cases hstay with
    | cons _ hrest =>
      rw [hone] at hrest
      rw [List.flatMap_singleton, Part.lines, LayoutState.after, LayoutState.feed,
        LayoutState.feedOutside_opener hopen, LayoutState.after_staysOpen hrest]
      rfl

/-! ## What the formatter is given -/

/-- What a formatter is given of a part. -/
def Part.source? : Part → Option String
  | line _ => none
  | block first rest => some (String.ofList (blockText ((blockLines first rest).map blockLine)))

/-- What a formatter is given of a piece. -/
def Piece.source? : Piece → Option String
  | block source => some (String.ofList source)
  | _ => none

theorem blocks_eq (document : String) :
    blocks document = (pieces document.toList).filterMap Piece.source? := rfl

theorem Laid.sources_eq {around : Surroundings} {parts : List Part} {pieces : List Piece}
    {rows : List (List Char)} {final : LayoutState} (h : Laid around parts pieces rows final) :
    pieces.filterMap Piece.source? = parts.filterMap Part.source? := by
  have hgap : ∀ around : Surroundings, around.gap.filterMap Piece.source? = [] := by
    intro around
    unfold Surroundings.gap
    cases around.afterBrace <;> rfl
  induction h with
  | done around => rfl
  | again _ _ _ ih => exact ih
  | blank _ _ _ ih => exact ih
  | text _ _ _ ih =>
    rw [List.filterMap_append, hgap]
    exact ih
  | block _ _ _ ih =>
    rw [List.filterMap_append, hgap, List.nil_append, List.filterMap_cons, List.filterMap_cons, ih]
    rfl
  | unclosed _ _ =>
    rw [List.filterMap_append, hgap]
    rfl

/-- The formatter is given the blocks behind those that it takes. -/
theorem submitted_append {formatter : SourceFormatter} {taken : List String}
    (htaken : ∀ s ∈ taken, ∃ out, formatter s = .ok out) (rest : List String) :
    submitted formatter (taken ++ rest) = taken ++ submitted formatter rest := by
  induction taken with
  | nil => rfl
  | cons first taken ih =>
    obtain ⟨⟨out, hout⟩, htaken⟩ := List.forall_mem_cons.mp htaken
    rw [List.cons_append, submitted, hout]
    exact congrArg (first :: ·) (ih htaken)

/-- A formatter that takes all blocks is given all of them. -/
theorem submitted_eq_self {formatter : SourceFormatter} {sources : List String}
    (h : ∀ source ∈ sources, ∃ formatted, formatter source = .ok formatted) :
    submitted formatter sources = sources := by
  have hall := submitted_append h []
  rwa [submitted, List.append_nil] at hall

/-! ## Parts one by one -/

/-- The parts in front of others are laid out by themselves, and the others from the state behind them. -/
theorem Laid.exists_split {around : Surroundings} {u v : List Part} {pieces : List Piece}
    {rows : List (List Char)} {final : LayoutState} (h : Laid around (u ++ v) pieces rows final) (hv : v ≠ []) :
    ∃ mid front behind upper lower, Laid around u front upper (.outside mid) ∧
      Laid mid v behind lower final ∧ pieces = front ++ behind ∧ rows = upper ++ lower := by
  induction u generalizing around pieces rows with
  | nil => exact ⟨around, [], pieces, [], rows, .done around, h, rfl, rfl⟩
  | cons part u ih =>
    rw [List.cons_append] at h
    generalize hparts : u ++ v = parts at h
    cases h with
    | again hraw hblank hrest =>
      subst hparts
      obtain ⟨mid, front, behind, upper, lower, hu, hlower, rfl, rfl⟩ := ih hrest
      exact ⟨mid, _, behind, _, lower, .again hraw hblank hu, hlower, rfl, rfl⟩
    | blank hraw hblank hrest =>
      subst hparts
      obtain ⟨mid, front, behind, upper, lower, hu, hlower, rfl, rfl⟩ := ih hrest
      exact ⟨mid, _, behind, _, lower, .blank hraw hblank hu, hlower, rfl, rfl⟩
    | text hraw hopen hrest =>
      subst hparts
      obtain ⟨mid, front, behind, upper, lower, hu, hlower, rfl, rfl⟩ := ih hrest
      exact ⟨mid, _, behind, _, lower, .text hraw hopen hu, hlower, by simp, by simp⟩
    | block hopen hclose hrest =>
      subst hparts
      obtain ⟨mid, front, behind, upper, lower, hu, hlower, rfl, rfl⟩ := ih hrest
      exact ⟨mid, _, behind, _, lower, .block hopen hclose hu, hlower, by simp, by simp⟩
    | unclosed _ _ => exact absurd (List.append_eq_nil_iff.mp hparts).2 hv

end TableCodegen
