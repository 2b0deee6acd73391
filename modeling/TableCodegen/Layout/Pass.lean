import TableCodegen.Formatter
import TableCodegen.Layout.Block
import TableCodegen.Layout.Delimiter

/-!
# Layout of route documents

A route document is laid out line by line. Blocks of types are collected and go to a source formatter as
a whole; every other line is indented by the brackets that are open before it. Blank lines in a row
become one, and a blank line follows a line that is only a closing brace.

Main definitions:

* `Piece`, `LayoutState.feed`, `pieces`: the pieces of a document, which no formatter has a part in.
* `layOut`: the text of the pieces, with the blocks formatted.
* `formatRoutes`: the layout of a document that passes a check.
-/

namespace TableCodegen

open TableCodegen.Text

/-! ## Pieces -/

/-- A piece of a document. -/
inductive Piece where
  | blank
  | line (depth : Nat) (text : List Char)
  /-- A block of types, as a formatter gets it. -/
  | block (source : List Char)
  deriving Repr, DecidableEq

/-- What the lines outside blocks leave behind. -/
structure Surroundings where
  /-- The number of open brackets. -/
  indent : Nat := 0
  /-- The last line was blank. -/
  afterBlank : Bool := false
  /-- The last line outside blocks was a closing brace alone. -/
  afterBrace : Bool := false
  deriving Repr, DecidableEq

/-- Where the next line stands. -/
inductive LayoutState where
  | outside (around : Surroundings)
  /-- In a block, of which some lines are collected and `depth` brackets are open. -/
  | inside (around : Surroundings) (lines : List (List Char)) (depth : Nat)
  deriving Repr, DecidableEq

/-- The text of the lines of a block. -/
def blockText (lines : List (List Char)) : List Char :=
  lines.flatMap (· ++ ['\n'])

/-- The code opens a block of types. -/
def opensBlock (code : List Char) : Bool :=
  (dropHead? "type".toList code).isSome && endsOpen code

namespace LayoutState

/-- Takes in a line of a block; the block is complete when none of its brackets is open any more. -/
def feedInside (around : Surroundings) (lines : List (List Char)) (depth : Nat) (line : List Char) :
    List Piece × LayoutState :=
  let code := codePart line
  let opened := if endsOpen code then depth + 1 else depth
  let closed := if isLoneCloser code then opened - 1 else opened
  let lines := lines ++ [blockLine line]
  if closed = 0 then ([.block (blockText lines)], .outside around)
  else ([], .inside around lines closed)

/-- Takes in a line outside blocks that is not blank and opens no block. -/
def feedLine (around : Surroundings) (line : List Char) : List Piece × LayoutState :=
  let code := codePart line
  let depth := if isLoneCloser code then around.indent - 1 else around.indent
  ([.line depth line],
    .outside
      { indent := if endsOpen code then depth + 1 else depth
        afterBlank := false
        afterBrace := line = ['\x7d'] })

/-- Takes in a line outside blocks. -/
def feedOutside (around : Surroundings) (rawLine : List Char) : List Piece × LayoutState :=
  let line := trim rawLine
  if line.isEmpty then
    if around.afterBlank then ([], .outside around)
    else ([.blank], .outside { around with afterBlank := true, afterBrace := false })
  else
    let gap := if around.afterBrace then [Piece.blank] else []
    let fed :=
      if around.indent = 0 && opensBlock (codePart line) then
        feedInside { around with afterBlank := false } [] 0 line
      else feedLine around line
    (gap ++ fed.1, fed.2)

/-- Takes in a line. -/
def feed (line : List Char) : LayoutState → List Piece × LayoutState
  | outside around => feedOutside around line
  | inside around lines depth => feedInside around lines depth line

/-- The pieces of lines; a block that the lines leave open is a piece all the same. -/
def piecesFrom : LayoutState → List (List Char) → List Piece
  | outside _, [] => []
  | inside _ lines _, [] => [.block (blockText lines)]
  | state, line :: rest =>
    let fed := state.feed line
    fed.1 ++ piecesFrom fed.2 rest

end LayoutState

/-- The pieces of a document. -/
def pieces (document : List Char) : List Piece :=
  LayoutState.piecesFrom (.outside {}) (lines document)

/-! ## Text -/

/-- A text that ends with a line feed. -/
def withFinalFeed (cs : List Char) : List Char :=
  if endsWithChar '\n' cs then cs else cs ++ ['\n']

/-- A block after it has been formatted; a refusal names the block. -/
def formatBlock (formatter : SourceFormatter) (source : List Char) : Except Failure (List Char) :=
  match formatter (String.ofList source) with
  | .ok formatted => .ok (withFinalFeed (withoutKeyword formatted.toList))
  | .error failure => .error (.ofCause (.source failure.message (String.ofList source)))

/-- The text of a piece. -/
def Piece.text (formatter : SourceFormatter) : Piece → Except Failure (List Char)
  | blank => .ok ['\n']
  | line depth text => .ok (List.replicate depth '\t' ++ text ++ ['\n'])
  | block source => formatBlock formatter source

/-- The text of a document whose blocks are formatted, without blanks at its ends. The first block that
    is refused ends the layout. -/
def layOut (formatter : SourceFormatter) (document : String) : Except Failure String := do
  let texts ← (pieces document.toList).mapM (·.text formatter)
  return String.ofList (trim texts.flatten)

/-- The layout of a document that passes a check. -/
def formatRoutes (validator : RouteValidator) (formatter : SourceFormatter) (document : String) :
    Except Failure String := do
  validator document
  layOut formatter document

/-! ## Blocks -/

/-- The blocks of a document, in order. -/
def blocks (document : String) : List String :=
  (pieces document.toList).filterMap fun
    | .block source => some (String.ofList source)
    | _ => none

/-- The blocks that a formatter is given: all up to the first that it refuses. -/
def submitted (formatter : SourceFormatter) : List String → List String
  | [] => []
  | source :: rest =>
    match formatter source with
    | .ok _ => source :: submitted formatter rest
    | .error _ => [source]

end TableCodegen
