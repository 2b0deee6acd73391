import TableCodegen.Proofs.Layout.Outline

/-!
# The formatter in a pass over a document

A pass over a document gives every block to the formatter as soon as its last line is read, and reads on with the
next line. Here the pass is written down with a record of what the formatter is given, and the text of a layout is
taken apart into the blocks and the text around them. That text is the same for all formatters.

Results:

* `recordedLayout_eq`: the pass gives the layout, and the formatter is given the blocks up to the first that it
  refuses.
* `Laid.framed`: the text around the blocks, part by part.
* `mapM_text_of_formats`: a formatter that takes all blocks puts its texts in their places.
* `mapM_text_of_refused`: the first block that is refused ends the pass.
* `formatter_fills_frame`: all of this for the layout of a document.
-/

namespace TableCodegen

open TableCodegen.Text

/-! ## Specification -/

/-- A pass with a record of what the formatter has been given. -/
abbrev Recorded (α : Type) := ExceptT Failure (StateM (List String)) α

/-- Gives a block to the formatter. -/
def formatRecorded (formatter : SourceFormatter) (source : List Char) : Recorded (List Char) := do
  modify (· ++ [String.ofList source])
  liftM (m := Except Failure) (formatBlock formatter source)

/-- Puts a piece out. -/
def Piece.emit (formatter : SourceFormatter) : Piece → Recorded (List Char)
  | blank => pure ['\n']
  | line depth text => pure (List.replicate depth '\t' ++ text ++ ['\n'])
  | block source => formatRecorded formatter source

/-- Reads the lines of a document: the pieces of a line are put out before the next line is read. -/
def LayoutState.pass (formatter : SourceFormatter) : LayoutState → List (List Char) → Recorded (List Char)
  | outside _, [] => pure []
  | inside _ lines _, [] => formatRecorded formatter (blockText lines)
  | state, line :: rest => do
    let fed := state.feed line
    let texts ← fed.1.mapM (Piece.emit formatter)
    let behind ← pass formatter fed.2 rest
    return texts.flatten ++ behind

/-- The result of a pass over a document, and what the formatter has been given. -/
def recordedLayout (formatter : SourceFormatter) (document : String) : Except Failure String × List String :=
  let (text, given) := (LayoutState.pass formatter (.outside {}) (lines document.toList)).run []
  (text.map fun text => String.ofList (trim text), given)

/-- The text of a layout around its blocks: the text in front of the first block and, for each block, its source
and the text behind it. -/
structure Frame where
  head : List Char
  tail : List (String × List Char)

namespace Frame

/-- The frame behind some text. -/
def push (text : List Char) (frame : Frame) : Frame :=
  ⟨text ++ frame.head, frame.tail⟩

/-- The frame behind a block. -/
def pushBlock (source : String) (frame : Frame) : Frame :=
  ⟨[], (source, frame.head) :: frame.tail⟩

/-- The blocks of a frame. -/
def sources (frame : Frame) : List String :=
  frame.tail.map Prod.fst

/-- The text of a frame with formatted blocks in the places of their sources. -/
def fill (format : String → String) (frame : Frame) : List Char :=
  frame.head ++ frame.tail.flatMap fun entry =>
    withFinalFeed (withoutKeyword (format entry.1).toList) ++ entry.2

end Frame

/-- The frame of the parts of a document: every line outside blocks that is not blank stands in it, in order and
without blanks at its ends, behind tabs; blank lines may come anywhere. -/
inductive Framed : List Part → Frame → Prop where
  | done : Framed [] ⟨[], []⟩
  | blank {parts : List Part} {frame : Frame} (hrest : Framed parts frame) : Framed parts (frame.push ['\n'])
  | skip {raw : List Char} {parts : List Part} {frame : Frame} (hraw : trim raw = [])
      (hrest : Framed parts frame) : Framed (.line raw :: parts) frame
  | line {raw : List Char} {parts : List Part} {frame : Frame} (depth : Nat) (hraw : trim raw ≠ [])
      (hrest : Framed parts frame) :
      Framed (.line raw :: parts) (frame.push (List.replicate depth '\t' ++ trim raw ++ ['\n']))
  | block {first : List Char} {rest : List (List Char)} {parts : List Part} {frame : Frame}
      (hrest : Framed parts frame) :
      Framed (.block first rest :: parts)
        (frame.pushBlock (String.ofList (blockText ((blockLines first rest).map blockLine))))

/-! ## The record -/

theorem run_emit (formatter : SourceFormatter) (piece : Piece) (given : List String) :
    (piece.emit formatter).run given = (piece.text formatter, given ++ piece.source?.toList) := by
  cases piece with
  | blank => exact congrArg _ (List.append_nil given).symm
  | line depth text => exact congrArg _ (List.append_nil given).symm
  | block source => rfl

theorem recorded_pure {α : Type} (a : α) (given : List String) :
    (pure a : Recorded α).run given = (.ok a, given) := rfl

theorem recorded_bind {α β : Type} (x : Recorded α) (f : α → Recorded β) (given : List String) :
    (x >>= f).run given = match x.run given with
      | (.ok a, given) => (f a).run given
      | (.error failure, given) => (.error failure, given) := by
  have hbind : (x >>= f).run given = ExceptT.bindCont f (x.run given).1 (x.run given).2 := rfl
  rw [hbind]
  rcases x.run given with ⟨_ | a, after⟩ <;> rfl

/-- A piece gives its block to the formatter; those behind it come after that, if the formatter takes it. -/
theorem submitted_cons (formatter : SourceFormatter) (piece : Piece) (pieces : List Piece) :
    submitted formatter ((piece :: pieces).filterMap Piece.source?) =
      piece.source?.toList ++ match piece.text formatter with
        | .ok _ => submitted formatter (pieces.filterMap Piece.source?)
        | .error _ => [] := by
  cases piece with
  | blank => rfl
  | line depth text => rfl
  | block source =>
    have hsources : (Piece.block source :: pieces).filterMap Piece.source? =
        String.ofList source :: pieces.filterMap Piece.source? := rfl
    rw [hsources, submitted, Piece.text, formatBlock]
    cases formatter (String.ofList source) <;> rfl

/-- The pieces are put out in order, up to the first block that is refused. -/
theorem run_mapM_emit (formatter : SourceFormatter) (pieces : List Piece) (given : List String) :
    (pieces.mapM (Piece.emit formatter)).run given =
      (pieces.mapM (·.text formatter), given ++ submitted formatter (pieces.filterMap Piece.source?)) := by
  induction pieces generalizing given with
  | nil =>
    rw [List.mapM_nil, List.mapM_nil, recorded_pure]
    exact congrArg _ (List.append_nil given).symm
  | cons piece pieces ih =>
    rw [List.mapM_cons, List.mapM_cons, recorded_bind, run_emit, submitted_cons]
    cases piece.text formatter with
    | error failure =>
      rw [List.append_nil]
      rfl
    | ok text =>
      dsimp only
      rw [recorded_bind, ih, List.append_assoc]
      cases pieces.mapM (·.text formatter) <;> rfl

/-- A pass puts the pieces of its lines out. -/
theorem pass_eq (formatter : SourceFormatter) (state : LayoutState) (ls : List (List Char)) :
    state.pass formatter ls = List.flatten <$> (state.piecesFrom ls).mapM (Piece.emit formatter) := by
  induction ls generalizing state with
  | nil =>
    cases state with
    | outside around => rfl
    | inside around held depth =>
      have hpieces : (LayoutState.inside around held depth).piecesFrom [] = [.block (blockText held)] := rfl
      rw [hpieces]
      simp [LayoutState.pass, Piece.emit]
  | cons line ls ih =>
    have hpass : state.pass formatter (line :: ls) = do
        let texts ← (state.feed line).1.mapM (Piece.emit formatter)
        let behind ← (state.feed line).2.pass formatter ls
        return texts.flatten ++ behind := by
      cases state <;> rfl
    rw [hpass, LayoutState.piecesFrom_cons, List.mapM_append, ih]
    simp

/-- **The pass gives the layout**, and the formatter has been given the blocks up to the first it refuses. -/
theorem recordedLayout_eq (formatter : SourceFormatter) (document : String) :
    recordedLayout formatter document =
      (layOut formatter document, submitted formatter (blocks document)) := by
  have hpieces : (LayoutState.outside {}).piecesFrom (lines document.toList) = pieces document.toList := rfl
  have hrun := run_mapM_emit formatter (pieces document.toList) []
  unfold recordedLayout layOut
  rw [pass_eq, hpieces, map_eq_pure_bind, recorded_bind, hrun, List.nil_append, ← blocks_eq]
  cases (pieces document.toList).mapM (·.text formatter) <;> rfl

/-! ## The frame -/

/-- The frame of some pieces. -/
def frameOf : List Piece → Frame
  | [] => ⟨[], []⟩
  | .blank :: pieces => (frameOf pieces).push ['\n']
  | .line depth text :: pieces => (frameOf pieces).push (List.replicate depth '\t' ++ text ++ ['\n'])
  | .block source :: pieces => (frameOf pieces).pushBlock (String.ofList source)

theorem sources_frameOf (pieces : List Piece) : (frameOf pieces).sources = pieces.filterMap Piece.source? := by
  induction pieces with
  | nil => rfl
  | cons piece pieces ih =>
    cases piece with
    | blank => exact ih
    | line depth text => exact ih
    | block source => exact congrArg (String.ofList source :: ·) ih

/-- The blank line that a closing brace asks for is one of the frame. -/
theorem Framed.gap {parts : List Part} {pieces : List Piece} (h : Framed parts (frameOf pieces))
    (around : Surroundings) : Framed parts (frameOf (around.gap ++ pieces)) := by
  unfold Surroundings.gap
  cases around.afterBrace with
  | false => exact h
  | true => exact .blank h

/-- The frame of the pieces is a frame of the parts. -/
theorem Laid.framed {around : Surroundings} {parts : List Part} {pieces : List Piece} {rows : List (List Char)}
    {final : LayoutState} (h : Laid around parts pieces rows final) : Framed parts (frameOf pieces) := by
  induction h with
  | done around => exact .done
  | again hraw _ _ ih => exact .skip hraw ih
  | blank hraw _ _ ih => exact .blank (.skip hraw ih)
  | @text around raw _ _ _ _ hraw _ _ ih => exact Framed.gap (.line _ hraw ih) around
  | @block around first rest _ _ _ _ _ _ _ ih => exact Framed.gap (.block ih) around
  | @unclosed around first rest _ _ _ => exact Framed.gap (.block .done) around

/-- The text of a piece whose block is formatted. -/
def Piece.filled (format : String → String) : Piece → List Char
  | blank => ['\n']
  | line depth text => List.replicate depth '\t' ++ text ++ ['\n']
  | block source => withFinalFeed (withoutKeyword (format (String.ofList source)).toList)

theorem fill_frameOf (format : String → String) (pieces : List Piece) :
    (frameOf pieces).fill format = pieces.flatMap (Piece.filled format) := by
  induction pieces with
  | nil => rfl
  | cons piece pieces ih =>
    rw [List.flatMap_cons, ← ih]
    cases piece with
    | blank => rfl
    | line depth text => exact List.append_assoc ..
    | block source =>
      rw [frameOf, Frame.pushBlock, Frame.fill, List.flatMap_cons, List.nil_append, List.append_assoc]
      rfl

/-! ## The formatter -/

theorem Piece.text_of_formats {formatter : SourceFormatter} {format : String → String} {piece : Piece}
    (h : ∀ source ∈ piece.source?, formatter source = .ok (format source)) :
    piece.text formatter = .ok (piece.filled format) := by
  cases piece with
  | blank => rfl
  | line depth text => rfl
  | block source => rw [text, formatBlock, h _ rfl, filled]

/-- A formatter that takes all blocks puts its texts in their places. -/
theorem mapM_text_of_formats {formatter : SourceFormatter} {format : String → String} {pieces : List Piece}
    (h : ∀ source ∈ pieces.filterMap Piece.source?, formatter source = .ok (format source)) :
    pieces.mapM (·.text formatter) = .ok (pieces.map (Piece.filled format)) := by
  induction pieces with
  | nil => rfl
  | cons piece pieces ih =>
    have hpiece : ∀ source ∈ piece.source?, formatter source = .ok (format source) :=
      fun source hsource => h source (List.mem_filterMap.mpr ⟨piece, List.mem_cons_self, hsource⟩)
    have hpieces : ∀ source ∈ pieces.filterMap Piece.source?, formatter source = .ok (format source) := by
      intro source hsource
      obtain ⟨later, hlater, heq⟩ := List.mem_filterMap.mp hsource
      exact h source (List.mem_filterMap.mpr ⟨later, List.mem_cons_of_mem piece hlater, heq⟩)
    rw [List.mapM_cons, Piece.text_of_formats hpiece, ih hpieces]
    rfl

/-- The first block that is refused ends the layout. -/
theorem mapM_text_of_refused {formatter : SourceFormatter} {pieces : List Piece} {taken rest : List String}
    {source : String} {failure : Failure} (hsources : pieces.filterMap Piece.source? = taken ++ source :: rest)
    (htaken : ∀ s ∈ taken, ∃ out, formatter s = .ok out) (hsource : formatter source = .error failure) :
    pieces.mapM (·.text formatter) = .error (.ofCause (.source failure.message source)) := by
  induction pieces generalizing taken with
  | nil => simp at hsources
  | cons piece pieces ih =>
    cases piece with
    | blank =>
      rw [List.mapM_cons, ih hsources htaken]
      rfl
    | line depth text =>
      rw [List.mapM_cons, ih hsources htaken]
      rfl
    | block held =>
      have hheld : String.ofList held :: pieces.filterMap Piece.source? = taken ++ source :: rest := hsources
      cases taken with
      | nil =>
        obtain ⟨rfl, -⟩ := List.cons.inj hheld
        rw [List.mapM_cons, Piece.text, formatBlock, hsource]
        rfl
      | cons first taken =>
        obtain ⟨rfl, hrest⟩ := List.cons.inj hheld
        obtain ⟨⟨out, hout⟩, htaken⟩ := List.forall_mem_cons.mp htaken
        rw [List.mapM_cons, Piece.text, formatBlock, hout, ih hrest htaken]
        rfl

/-- **The formatter fills the frame of a document.** The frame is the text around the blocks: the lines outside
blocks behind tabs, and blank lines. For every formatter, the pass over the document gives its layout. If the
formatter takes all blocks, it is given them in order, and its texts stand in the frame in their places. If it
refuses one, the layout fails with the first that is refused, and no block behind that one is given to it. -/
theorem formatter_fills_frame (document : String) :
    ∃ parts rows final frame, parts.flatMap Part.lines = lines document.toList ∧
      Laid {} parts (pieces document.toList) rows final ∧
      Framed parts frame ∧ frame.sources = blocks document ∧
      (∀ formatter, recordedLayout formatter document =
        (layOut formatter document, submitted formatter frame.sources)) ∧
      (∀ (formatter : SourceFormatter) (format : String → String),
        (∀ source ∈ frame.sources, formatter source = .ok (format source)) →
          recordedLayout formatter document = (.ok (String.ofList (trim (frame.fill format))), frame.sources)) ∧
      ∀ (formatter : SourceFormatter) (taken : List String) (source : String) (rest : List String)
        (failure : Failure), frame.sources = taken ++ source :: rest →
          (∀ s ∈ taken, ∃ out, formatter s = .ok out) → formatter source = .error failure →
            recordedLayout formatter document =
              (.error (.ofCause (.source failure.message source)), taken ++ [source]) := by
  obtain ⟨parts, rows, hparts, hlaid⟩ := exists_laid {} (lines document.toList)
  have hframed : Framed parts (frameOf (pieces document.toList)) := hlaid.framed
  have hsources : (frameOf (pieces document.toList)).sources = blocks document := sources_frameOf _
  refine ⟨parts, rows, _, _, hparts, hlaid, hframed, hsources, ?_, ?_, ?_⟩
  · intro formatter
    rw [recordedLayout_eq, hsources]
  · intro formatter format hformat
    rw [sources_frameOf] at hformat
    have hgiven := submitted_eq_self fun source hsource => ⟨_, hformat source hsource⟩
    rw [recordedLayout_eq, layOut, mapM_text_of_formats hformat, blocks_eq, hgiven, sources_frameOf, fill_frameOf,
      List.flatMap_def]
    rfl
  · intro formatter taken source rest failure hsplit htaken hsource
    rw [hsources] at hsplit
    rw [recordedLayout_eq, layOut, mapM_text_of_refused hsplit htaken hsource, hsplit,
      submitted_append htaken, submitted, hsource]
    rfl

/-- A refusal of the first block keeps the second one from the formatter. -/
example (failure : Failure) :
    (recordedLayout (fun _ => .error failure) "type A \x7b\n\x7d\ntype B \x7b\n\x7d\n").2 =
      ["type A struct \x7b\n\x7d\n"] := rfl

end TableCodegen
