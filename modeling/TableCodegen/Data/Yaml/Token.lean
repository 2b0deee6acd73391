import TableCodegen.Data.Tree
import TableCodegen.Text.Utf8

/-!
# Tokens of YAML

The tokens of a YAML stream and the cursor that reads them. Block structure shows in tokens of its own:
a token starts every block list and block map, and another one ends it.

Main definitions:

* `Token`: the tokens.
* `Cursor`: a place in a text, with its line and column.
* `isBreak`, `isBlank`, `isAllowed`: classes of characters.
-/

namespace TableCodegen.Yaml

/-- A token. -/
inductive Token where
  | versionDirective (major minor : Nat)
  /-- The bytes that a handle of tags stands for. -/
  | tagDirective (handle : String) (bytes : List UInt8)
  | documentStart
  | documentEnd
  | streamEnd
  | blockListStart
  | blockMapStart
  | blockEnd
  | flowListStart
  | flowListEnd
  | flowMapStart
  | flowMapEnd
  | blockEntry
  | flowEntry
  | key
  | value
  | alias (name : String)
  | anchor (name : String)
  /-- A handle, which may be empty, and the bytes after it. -/
  | tag (handle : String) (bytes : List UInt8)
  | scalar (style : LooseStyle) (text : String)
  deriving Repr, DecidableEq

/-! ## Characters -/

/-- A line break. -/
def isBreak (c : Char) : Bool :=
  c = '\n' || c = '\r' || c = '\x85' || c = '\u2028' || c = '\u2029'

/-- A space or a tab. -/
def isBlank (c : Char) : Bool :=
  c = ' ' || c = '\t'

/-- A character that means something else than itself at the start of a scalar. -/
def isStartMark (c : Char) : Bool :=
  ['#', ',', '[', ']', '\x7b', '\x7d', '&', '*', '!', '|', '>', '\x27', '"', '%', '@', '\x60'].contains c

/-- A character that a stream may hold. -/
def isAllowed (c : Char) : Bool :=
  let n := c.toNat
  n = 0x09 || n = 0x0A || n = 0x0D || (0x20 ≤ n && n ≤ 0x7E) || n = 0x85 ||
    (0xA0 ≤ n && n ≤ 0xFFFD) || 0x10000 ≤ n

/-- The text starts with a blank or a break, or is at its end. -/
def atGap : List Char → Bool
  | [] => true
  | c :: _ => isBlank c || isBreak c

/-- The text is at a break or at its end. -/
def atLineEnd : List Char → Bool
  | [] => true
  | c :: _ => isBreak c

/-! ## Cursors -/

/-- A place in a text: what follows it, and how far it is. -/
structure Cursor where
  rest : List Char
  /-- The number of bytes before the place. -/
  index : Nat := 0
  line : Nat := 0
  column : Nat := 0

namespace Cursor

/-- The number of bytes of some characters. -/
def byteCount (cs : List Char) : Nat :=
  cs.foldl (fun count c => count + c.utf8Size) 0

/-- The place after some characters that are no breaks. -/
def skip (cursor : Cursor) (count : Nat) : Cursor :=
  { cursor with
    rest := cursor.rest.drop count
    index := cursor.index + byteCount (cursor.rest.take count)
    column := cursor.column + count }

/-- The place after a character that is no break. -/
def next (cursor : Cursor) : Cursor :=
  cursor.skip 1

/-- The place after a break, and the break as it counts in a text. A return and a feed are one break. -/
def nextLine (cursor : Cursor) : List Char × Cursor :=
  let after (count : Nat) : Cursor :=
    { rest := cursor.rest.drop count
      index := cursor.index + byteCount (cursor.rest.take count)
      line := cursor.line + 1
      column := 0 }
  match cursor.rest with
  | '\r' :: '\n' :: _ => (['\n'], after 2)
  | c :: _ =>
    if c = '\u2028' || c = '\u2029' then ([c], after 1)
    else if isBreak c then (['\n'], after 1)
    else ([], cursor)
  | [] => ([], cursor)

/-- The characters before the first that fails a test, and the place of that one. -/
def takeWhile (cursor : Cursor) (test : Char → Bool) : List Char × Cursor :=
  let taken := cursor.rest.takeWhile test
  (taken, cursor.skip taken.length)

/-- A mark of three characters that divides documents stands here, at the start of a line. -/
def atMark (cursor : Cursor) (mark : Char) : Bool :=
  cursor.column = 0 && cursor.rest.take 3 = [mark, mark, mark] && atGap (cursor.rest.drop 3)

/-- A mark that divides documents stands here. -/
def atDocumentMark (cursor : Cursor) : Bool :=
  cursor.atMark '-' || cursor.atMark '.'

end Cursor

end TableCodegen.Yaml
