import TableCodegen.Data.Yaml.Scalar
import TableCodegen.Data.Yaml.Tag

/-!
# The tokens of a YAML stream

A stream is cut into tokens from left to right. Columns decide where block collections start and end. A
scalar, a list or a map in brackets can turn out to be a key only when a colon follows on the same line;
its place is remembered until then, and the key token is put in front of it afterwards.

Main definitions:

* `Lexer`: the state of a reader of tokens.
* `tokens?`: the tokens of a stream.
-/

namespace TableCodegen.Yaml

/-! ## State -/

/-- A place at which a key may start. -/
structure KeySlot where
  /-- A block map at this column can only go on with a key. -/
  required : Bool
  /-- The number of tokens before the key. -/
  position : Nat
  index : Nat
  line : Nat
  column : Nat

/-- The state of a reader of tokens. -/
structure Lexer where
  cursor : Cursor
  tokens : List Token := []
  /-- The columns of the open block collections, innermost first. -/
  indents : List Nat := []
  /-- The key slots of the open brackets, innermost first, after that of the block around them. -/
  slots : List (Option KeySlot) := [none]
  /-- A key may start here. -/
  keyAllowed : Bool := true

namespace Lexer

/-- The reader is between brackets. -/
def inFlow (lexer : Lexer) : Bool :=
  lexer.slots.length > 1

/-- The column of the innermost block collection. -/
def indent? (lexer : Lexer) : Option Nat :=
  lexer.indents.head?

/-- The least column of what belongs to the innermost block collection. -/
def contentColumn (lexer : Lexer) : Nat :=
  match lexer.indent? with
  | none => 0
  | some column => column + 1

/-- The state with one more token. -/
def push (lexer : Lexer) (token : Token) : Lexer :=
  { lexer with tokens := lexer.tokens ++ [token] }

/-- The state with a token in front of those from a position on. -/
def insertAt (lexer : Lexer) (position : Nat) (token : Token) : Lexer :=
  { lexer with tokens := lexer.tokens.take position ++ token :: lexer.tokens.drop position }

/-- The state at another place. -/
def moveTo (lexer : Lexer) (cursor : Cursor) : Lexer :=
  { lexer with cursor := cursor }

/-- The state with one more token for some characters. -/
def pushMark (lexer : Lexer) (width : Nat) (token : Token) : Lexer :=
  (lexer.push token).moveTo (lexer.cursor.skip width)

/-- The state after a change of whether a key may start. -/
def allowKey (lexer : Lexer) (allowed : Bool) : Lexer :=
  { lexer with keyAllowed := allowed }

/-! ## Key slots -/

/-- The slot has been left without a colon: its line is over, or it is too long. -/
def isStale (cursor : Cursor) (slot : KeySlot) : Bool :=
  slot.line < cursor.line || slot.index + 1024 < cursor.index

/-- Drops the slots that have been left; a required one must not be. -/
def dropStale? (lexer : Lexer) : Option Lexer := do
  let isLeft (slot? : Option KeySlot) : Bool := slot?.any (isStale lexer.cursor)
  if lexer.slots.any fun slot? => isLeft slot? && slot?.any (·.required) then none
  return { lexer with slots := lexer.slots.map fun slot? => if isLeft slot? then none else slot? }

/-- Drops the innermost slot; it must not be a required one. -/
def dropSlot? (lexer : Lexer) : Option Lexer :=
  match lexer.slots with
  | some slot :: rest => if slot.required then none else some { lexer with slots := none :: rest }
  | _ => some lexer

/-- Remembers that a key may start here, if it may. -/
def saveSlot? (lexer : Lexer) : Option Lexer :=
  if !lexer.keyAllowed then some lexer
  else do
    let lexer ← lexer.dropSlot?
    let slot : KeySlot :=
      { required := !lexer.inFlow && lexer.indent? = some lexer.cursor.column
        position := lexer.tokens.length
        index := lexer.cursor.index
        line := lexer.cursor.line
        column := lexer.cursor.column }
    return { lexer with slots := some slot :: lexer.slots.tail }

/-! ## Block collections -/

/-- Opens a block collection at a column that is further right than the innermost one; its token stands
    at a position. -/
def roll (lexer : Lexer) (column position : Nat) (token : Token) : Lexer :=
  if lexer.inFlow || column < lexer.contentColumn then lexer
  else { lexer.insertAt position token with indents := column :: lexer.indents }

/-- Opens a block collection here. -/
def rollHere (lexer : Lexer) (token : Token) : Lexer :=
  lexer.roll lexer.cursor.column lexer.tokens.length token

/-- Closes the block collections that stand at `column` or further right. -/
def unroll (lexer : Lexer) (column : Nat) : Lexer :=
  if lexer.inFlow then lexer
  else
    let closed := (lexer.indents.takeWhile (column ≤ ·)).length
    { lexer with
      tokens := lexer.tokens ++ List.replicate closed .blockEnd
      indents := lexer.indents.drop closed }

/-! ## Between tokens -/

/-- The place after a mark of the byte order at the start of a line. -/
def skipOrderMark (cursor : Cursor) : Cursor :=
  if cursor.column = 0 && cursor.rest.head? = some '\ufeff' then cursor.next else cursor

/-- Skips blanks, comments and breaks. Tabs count as blanks where no key may start; `fuel` bounds the
    number of lines. -/
def skipGaps : Nat → Lexer → Lexer
  | 0, lexer => lexer
  | fuel + 1, lexer =>
    let tabs := lexer.inFlow || !lexer.keyAllowed
    let (_, cursor) := (skipOrderMark lexer.cursor).takeWhile fun c => c = ' ' || (tabs && c = '\t')
    let (_, cursor) :=
      if cursor.rest.head? = some '#' then cursor.takeWhile (!isBreak ·) else ([], cursor)
    if cursor.rest.head?.any isBreak then
      let lexer := lexer.moveTo cursor.nextLine.2
      skipGaps fuel (if lexer.inFlow then lexer else lexer.allowKey true)
    else lexer.moveTo cursor

/-! ## Tokens -/

/-- What every mark between documents does: block collections end, and no key may start. -/
def endBlocks? (lexer : Lexer) : Option Lexer := do
  return ((← (lexer.unroll 0).dropSlot?).allowKey false)

/-- Reads a directive with the break after it. -/
def fetchDirective? (lexer : Lexer) : Option Lexer := do
  let lexer ← lexer.endBlocks?
  let (directive, cursor) ← readDirective? lexer.cursor.next
  return (lexer.push directive).moveTo cursor

/-- Reads a mark between documents. -/
def fetchDocumentMark? (token : Token) (lexer : Lexer) : Option Lexer := do
  return (← lexer.endBlocks?).pushMark 3 token

/-- Reads an opening bracket. -/
def fetchFlowStart? (token : Token) (lexer : Lexer) : Option Lexer := do
  let lexer ← lexer.saveSlot?
  return ({ lexer with slots := none :: lexer.slots }.allowKey true).pushMark 1 token

/-- Reads a closing bracket. -/
def fetchFlowEnd? (token : Token) (lexer : Lexer) : Option Lexer := do
  let lexer ← lexer.dropSlot?
  let slots := if lexer.inFlow then lexer.slots.tail else lexer.slots
  return ({ lexer with slots := slots }.allowKey false).pushMark 1 token

/-- Reads a comma. -/
def fetchFlowEntry? (lexer : Lexer) : Option Lexer := do
  return ((← lexer.dropSlot?).allowKey true).pushMark 1 .flowEntry

/-- Reads the hyphen of a block list. -/
def fetchBlockEntry? (lexer : Lexer) : Option Lexer := do
  if !lexer.inFlow && !lexer.keyAllowed then none
  let lexer := lexer.rollHere .blockListStart
  return ((← lexer.dropSlot?).allowKey true).pushMark 1 .blockEntry

/-- Reads the question mark of a key. -/
def fetchKey? (lexer : Lexer) : Option Lexer := do
  if !lexer.inFlow && !lexer.keyAllowed then none
  let lexer := lexer.rollHere .blockMapStart
  return ((← lexer.dropSlot?).allowKey (!lexer.inFlow)).pushMark 1 .key

/-- Reads the colon of a value: what stands at the innermost slot is the key. -/
def fetchValue? (lexer : Lexer) : Option Lexer := do
  match lexer.slots with
  | some slot :: rest =>
    let lexer := (lexer.insertAt slot.position .key).roll slot.column slot.position .blockMapStart
    return ({ lexer with slots := none :: rest }.allowKey false).pushMark 1 .value
  | _ =>
    if !lexer.inFlow && !lexer.keyAllowed then none
    let lexer := lexer.rollHere .blockMapStart
    return (lexer.allowKey (!lexer.inFlow)).pushMark 1 .value

/-- Reads the name of an anchor or an alias. -/
def fetchName? (token : String → Token) (lexer : Lexer) : Option Lexer := do
  let lexer := (← lexer.saveSlot?).allowKey false
  let (name, cursor) := lexer.cursor.next.takeWhile isNameChar
  let ends := atGap cursor.rest ||
    cursor.rest.head?.any fun c => ['?', ':', ',', ']', '\x7d', '%', '@', '\x60'].contains c
  if name.isEmpty || !ends then none
  return (lexer.push (token (String.ofList name))).moveTo cursor

/-- Reads a tag. -/
def fetchTag? (lexer : Lexer) : Option Lexer := do
  let lexer := (← lexer.saveSlot?).allowKey false
  let (handle, bytes, cursor) ← readTag? lexer.cursor
  if !(atGap cursor.rest || (lexer.inFlow && cursor.rest.head? = some ',')) then none
  return (lexer.push (.tag handle bytes)).moveTo cursor

/-- Reads a block of lines. -/
def fetchBlock? (literal : Bool) (lexer : Lexer) : Option Lexer := do
  let lexer := (← lexer.dropSlot?).allowKey true
  let (text, cursor) ← readBlock? literal lexer.indent? lexer.cursor
  return (lexer.push (.scalar (if literal then .literal else .quoted) text)).moveTo cursor

/-- Reads a quoted scalar. -/
def fetchQuoted? (single : Bool) (lexer : Lexer) : Option Lexer := do
  let lexer := (← lexer.saveSlot?).allowKey false
  let (text, cursor) ← readQuoted? single lexer.cursor
  return (lexer.push (.scalar .quoted text)).moveTo cursor

/-- Reads a plain scalar; a key may start after a break at its end. -/
def fetchPlain? (lexer : Lexer) : Option Lexer := do
  let lexer := (← lexer.saveSlot?).allowKey false
  let (text, cursor, broken) ← readPlain? lexer.inFlow lexer.contentColumn lexer.cursor
  return ((lexer.push (.scalar .plain text)).moveTo cursor).allowKey broken

/-- A plain scalar can start with this character. -/
def startsPlain (inFlow : Bool) (c : Char) (rest : List Char) : Bool :=
  if c = '-' then !rest.head?.any isBlank
  else if c = '?' || c = ':' then !inFlow && !atGap rest
  else !isStartMark c && !isBlank c

/-- Reads the next token, which starts with the given character. -/
def fetch? (lexer : Lexer) (c : Char) (rest : List Char) : Option Lexer :=
  let cursor := lexer.cursor
  if cursor.column = 0 && c = '%' then lexer.fetchDirective?
  else if cursor.atMark '-' then lexer.fetchDocumentMark? .documentStart
  else if cursor.atMark '.' then lexer.fetchDocumentMark? .documentEnd
  else if c = '[' then lexer.fetchFlowStart? .flowListStart
  else if c = '\x7b' then lexer.fetchFlowStart? .flowMapStart
  else if c = ']' then lexer.fetchFlowEnd? .flowListEnd
  else if c = '\x7d' then lexer.fetchFlowEnd? .flowMapEnd
  else if c = ',' then lexer.fetchFlowEntry?
  else if c = '-' && atGap rest then lexer.fetchBlockEntry?
  else if c = '?' && (lexer.inFlow || atGap rest) then lexer.fetchKey?
  else if c = ':' && (lexer.inFlow || atGap rest) then lexer.fetchValue?
  else if c = '*' then lexer.fetchName? .alias
  else if c = '&' then lexer.fetchName? .anchor
  else if c = '!' then lexer.fetchTag?
  else if c = '|' && !lexer.inFlow then lexer.fetchBlock? true
  else if c = '>' && !lexer.inFlow then lexer.fetchBlock? false
  else if c = '\x27' then lexer.fetchQuoted? true
  else if c = '"' then lexer.fetchQuoted? false
  else if startsPlain lexer.inFlow c rest then lexer.fetchPlain?
  else none

/-- Ends the stream. -/
def finish? (lexer : Lexer) : Option (List Token) := do
  let lexer ← (lexer.unroll 0).dropSlot?
  return lexer.tokens ++ [.streamEnd]

/-- Reads the tokens up to the end of the stream; `fuel` bounds their number. -/
def run? : Nat → Lexer → Option (List Token)
  | 0, _ => none
  | fuel + 1, lexer => do
    let lexer ← (skipGaps (lexer.cursor.rest.length + 1) lexer).dropStale?
    let column := lexer.cursor.column
    match lexer.cursor.rest with
    | [] => lexer.finish?
    | c :: rest =>
      let lexer ← (lexer.unroll (column + 1)).fetch? c rest
      run? fuel lexer

end Lexer

/-- The tokens of a stream; a mark of the byte order at its start does not count. -/
def tokens? (text : String) : Option (List Token) :=
  let cs := text.toList
  let cs := if cs.head? = some '\ufeff' then cs.tail else cs
  if cs.all isAllowed then Lexer.run? (cs.length + 1) { cursor := { rest := cs } } else none

end TableCodegen.Yaml
