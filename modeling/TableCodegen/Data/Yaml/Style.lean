import TableCodegen.Data.Loose
import TableCodegen.Data.Yaml.Token

/-!
# Styles of YAML scalars

How a text is written as a scalar. A text that reads as another type is quoted, a text of more than one
line is a block of lines, and all else is plain, unless its characters do not allow that.

Main definitions:

* `ScalarStyle`, `styleOf`: the style of a text.
* `allowsPlain`, `allowsSingle`, `allowsBlock`: what the characters of a text allow.
* `writeScalar`: a text in its style.
* `isSimpleKey`, `writeKey`: texts that can stand before a colon.
-/

namespace TableCodegen.Yaml

/-- A way to write a text. -/
inductive ScalarStyle where
  | plain
  | single
  | double
  | block
  deriving Repr, DecidableEq

/-! ## What the characters allow -/

/-- A character that is written as it is. -/
def isPrintable (c : Char) : Bool :=
  let n := c.toNat
  n = 0x0A || (0x20 ≤ n && n ≤ 0x7E) || (0xA0 ≤ n && n ≤ 0xFFFD && n ≠ 0xFEFF)

/-- Two neighbours of which the first passes one test and the second another. -/
def hasNeighbours (first second : Char → Bool) : List Char → Bool
  | a :: b :: rest => first a && second b || hasNeighbours first second (b :: rest)
  | _ => false

/-- A space. -/
def isSpace (c : Char) : Bool := c = ' '

/-- A text starts like a list entry, a key, a value, a mark between documents or another token. -/
def startsWithMark : List Char → Bool
  | '-' :: '-' :: '-' :: _ => true
  | '.' :: '.' :: '.' :: _ => true
  | c :: rest => isStartMark c || (['-', '?', ':'].contains c && atGap rest)
  | [] => false

/-- A text holds a colon like that of a value, or the start of a comment. -/
def holdsMark (cs : List Char) : Bool :=
  hasNeighbours (· = ':') (fun c => isBlank c || isBreak c) cs || cs.getLast? = some ':' ||
    hasNeighbours (fun c => isBlank c || isBreak c) (· = '#') cs

/-- The text can be a block of lines: it has printable characters only, and no space ends it or one of
    its lines. -/
def allowsBlock (cs : List Char) : Bool :=
  !cs.isEmpty && cs.all isPrintable && !cs.getLast?.any isSpace && !hasNeighbours isSpace isBreak cs

/-- The text can be written between single quotes: it has printable characters only, and no space next
    to a break. -/
def allowsSingle (cs : List Char) : Bool :=
  cs.all isPrintable && !hasNeighbours isBreak isSpace cs && !hasNeighbours isSpace isBreak cs

/-- The text can stand alone. -/
def allowsPlain (cs : List Char) : Bool :=
  cs.all (fun c => isPrintable c && !isBreak c) && !cs.isEmpty && !cs.head?.any isSpace &&
    !cs.getLast?.any isSpace && !startsWithMark cs && !holdsMark cs

/-! ## Styles -/

/-- Texts that old readers take for truth values. -/
def oldTruthValues : List String := [
  "y", "Y", "yes", "Yes", "YES", "n", "N", "no", "No", "NO", "true", "True", "TRUE", "false", "False",
  "FALSE", "on", "On", "ON", "off", "Off", "OFF"]

/-- A text that a reader could take for something else than a text. -/
def isAmbiguous (text : String) : Bool :=
  oldTruthValues.contains text || hasLeadingZero (splitSign text.toList).2 ||
    match looseScalar text with
    | .text _ => false
    | _ => true

/-- The style of quotes for a text. -/
def quotedStyle (cs : List Char) : ScalarStyle :=
  if allowsSingle cs then .single else .double

/-- The style of a text. -/
def styleOf (text : String) : ScalarStyle :=
  let cs := text.toList
  if cs.contains '\n' then
    if allowsBlock cs then .block else .double
  else if isAmbiguous text || !allowsPlain cs then quotedStyle cs
  else .plain

/-! ## Writing -/

/-- Spaces up to a column. -/
def padding (column : Nat) : List Char :=
  List.replicate column ' '

/-- Characters of which each line after a break starts at a column, unless it is empty; `broken` says
    that a break stands before them. -/
def spread (column : Nat) : Bool → List Char → List Char
  | _, [] => []
  | broken, c :: rest =>
    if isBreak c then c :: spread column true rest
    else (if broken then padding column else []) ++ c :: spread column false rest

/-- A text between single quotes; a quote is written twice. -/
def singleQuoted (column : Nat) (cs : List Char) : List Char :=
  let doubled := cs.flatMap fun c => if c = '\x27' then [c, c] else [c]
  let tail := if cs.getLast?.any isBreak then padding column else []
  '\x27' :: spread column false doubled ++ tail ++ ['\x27']

/-- The letter that stands for a character after a backslash. -/
def escapeLetter? : Char → Option Char
  | '\x00' => some '0'
  | '\x07' => some 'a'
  | '\x08' => some 'b'
  | '\t' => some 't'
  | '\n' => some 'n'
  | '\x0b' => some 'v'
  | '\x0c' => some 'f'
  | '\r' => some 'r'
  | '\x1b' => some 'e'
  | '"' => some '"'
  | '\\' => some '\\'
  | '\x85' => some 'N'
  | '\u2028' => some 'L'
  | '\u2029' => some 'P'
  | _ => none

/-- The last hexadecimal digits of a number, in capitals. -/
def hexDigits : Nat → Nat → List Char
  | 0, _ => []
  | count + 1, n =>
    let digit := n % 16
    hexDigits count (n / 16) ++ [Char.ofNat (if digit < 10 then 48 + digit else 55 + digit)]

/-- A character by its number. -/
def numericEscape (c : Char) : List Char :=
  let n := c.toNat
  if n ≤ 0xFF then '\\' :: 'x' :: hexDigits 2 n
  else if n ≤ 0xFFFF then '\\' :: 'u' :: hexDigits 4 n
  else '\\' :: 'U' :: hexDigits 8 n

/-- A character between double quotes. -/
def escapeChar (c : Char) : List Char :=
  match escapeLetter? c with
  | some letter => ['\\', letter]
  | none => if isPrintable c then [c] else numericEscape c

/-- A text between double quotes. -/
def doubleQuoted (cs : List Char) : List Char :=
  '"' :: cs.flatMap escapeChar ++ ['"']

/-- What the mark of a block says about the breaks at its end. -/
def chompingMark (cs : List Char) : List Char :=
  match cs.reverse with
  | last :: rest =>
    if !isBreak last then ['-']
    else if rest.head?.all isBreak then ['+']
    else []
  | [] => ['-']

/-- What the mark of a block says about its indentation: two columns, if the first line does not show
    them. -/
def indentationMark (cs : List Char) : List Char :=
  if cs.head?.any fun c => isSpace c || isBreak c then ['2'] else []

/-- A block of lines at a column. -/
def blockOf (column : Nat) (cs : List Char) : List Char :=
  '|' :: indentationMark cs ++ chompingMark cs ++ '\n' :: spread column true cs

/-- A text in a style; its lines after the first stand at a column. -/
def writeIn (style : ScalarStyle) (column : Nat) (text : String) : String :=
  let cs := text.toList
  match style with
  | .plain => text
  | .single => String.ofList (singleQuoted column cs)
  | .double => String.ofList (doubleQuoted cs)
  | .block => String.ofList (blockOf column cs)

/-- A text as a value, up to the end of its line. -/
def writeScalar (column : Nat) (text : String) : String :=
  let style := styleOf text
  let written := writeIn style column text
  if style = .block && text.toList.getLast?.any isBreak then written else written ++ "\n"

/-- The text can stand before a colon: it is one line of 128 bytes at most. -/
def isSimpleKey (text : String) : Bool :=
  !text.toList.any isBreak && text.utf8ByteSize ≤ 128

/-- A text before a colon. -/
def writeKey (text : String) : String :=
  writeIn (styleOf text) 0 text

end TableCodegen.Yaml
