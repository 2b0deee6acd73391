import TableCodegen.Data.Loose
import TableCodegen.Data.Yaml.Token

/-!
# Scalars of YAML

A scalar is plain, between quotes, or a block of lines. Line breaks inside plain and quoted scalars are
folded: one break is a space, and of more the first is dropped.

Main definitions:

* `readPlain?`, `readQuoted?`, `readBlock?`: the text of a scalar and the place after it.
-/

namespace TableCodegen.Yaml

/-! ## Gaps between the lines of a scalar -/

/-- What stands between two parts of a scalar. -/
structure Gap where
  /-- The blanks of a gap without breaks. -/
  blanks : List Char := []
  /-- The first break. -/
  firstBreak : List Char := []
  /-- The breaks after the first. -/
  moreBreaks : List Char := []
  /-- The gap has a break, or an escaped one. -/
  broken : Bool := false

namespace Gap

/-- What a gap contributes to the text of its scalar. -/
def text (gap : Gap) : List Char :=
  if gap.broken then
    if gap.firstBreak = ['\n'] then
      if gap.moreBreaks.isEmpty then [' '] else gap.moreBreaks
    else gap.firstBreak ++ gap.moreBreaks
  else gap.blanks

/-- Reads the rest of a gap. A tab before the given column is refused where a line of a plain scalar is
    indented; `fuel` bounds the number of characters. -/
def readFrom? (tabColumn : Nat) : Nat → Gap → Cursor → Option (Gap × Cursor)
  | 0, gap, cursor => some (gap, cursor)
  | fuel + 1, gap, cursor =>
    match cursor.rest with
    | [] => some (gap, cursor)
    | c :: _ =>
      if isBlank c then
        if gap.broken then
          if c = '\t' && cursor.column < tabColumn then none
          else readFrom? tabColumn fuel gap cursor.next
        else readFrom? tabColumn fuel { gap with blanks := gap.blanks ++ [c] } cursor.next
      else if isBreak c then
        let (br, cursor) := cursor.nextLine
        if gap.broken then
          readFrom? tabColumn fuel { gap with moreBreaks := gap.moreBreaks ++ br } cursor
        else
          readFrom? tabColumn fuel { gap with blanks := [], firstBreak := br, broken := true } cursor
      else some (gap, cursor)

end Gap

/-! ## Plain scalars -/

/-- A character that ends a plain scalar in a flow collection. -/
def isFlowMark (c : Char) : Bool :=
  c = ',' || c = '[' || c = ']' || c = '\x7b' || c = '\x7d'

/-- The rest of a part of a plain scalar without blanks, and the place after it. -/
def readPlainPart? (inFlow : Bool) : Nat → Cursor → Option (List Char × Cursor)
  | 0, cursor => some ([], cursor)
  | fuel + 1, cursor =>
    match cursor.rest with
    | [] => some ([], cursor)
    | c :: rest =>
      if isBlank c || isBreak c then some ([], cursor)
      else if inFlow && c = ':' && rest.head?.any (fun d => isFlowMark d || d = '?') then none
      else if (c = ':' && atGap rest) || (inFlow && isFlowMark c) then some ([], cursor)
      else (readPlainPart? inFlow fuel cursor.next).map fun part => (c :: part.1, part.2)

/-- The parts of a plain scalar with the gaps between them, the place after it, and whether the last gap
    has a break. A line of the scalar has to stand at `indent` or further right. -/
def readPlainFrom? (inFlow : Bool) (indent : Nat) :
    Nat → Gap → Cursor → Option (List Char × Cursor × Bool)
  | 0, gap, cursor => some ([], cursor, gap.broken)
  | fuel + 1, gap, cursor =>
    if cursor.atDocumentMark || cursor.rest.head? = some '#' then some ([], cursor, gap.broken)
    else do
      let (part, cursor) ← readPlainPart? inFlow (cursor.rest.length + 1) cursor
      let text := if part.isEmpty then [] else gap.text ++ part
      let gap := if part.isEmpty then gap else {}
      if !(cursor.rest.head?.any fun c => isBlank c || isBreak c) then
        return (text, cursor, gap.broken)
      let (gap, cursor) ← Gap.readFrom? indent (cursor.rest.length + 1) gap cursor
      if !inFlow && cursor.column < indent then return (text, cursor, gap.broken)
      let (more, cursor, broken) ← readPlainFrom? inFlow indent fuel gap cursor
      return (text ++ more, cursor, broken)

/-- A plain scalar: its text, the place after it, and whether it ends with a break. -/
def readPlain? (inFlow : Bool) (indent : Nat) (cursor : Cursor) :
    Option (String × Cursor × Bool) :=
  (readPlainFrom? inFlow indent (cursor.rest.length + 1) {} cursor).map fun e =>
    (String.ofList e.1, e.2)

/-! ## Quoted scalars -/

/-- The character that a letter after a backslash stands for. -/
def simpleEscape? : Char → Option Char
  | '0' => some '\x00'
  | 'a' => some '\x07'
  | 'b' => some '\x08'
  | 't' => some '\t'
  | '\t' => some '\t'
  | 'n' => some '\n'
  | 'v' => some '\x0b'
  | 'f' => some '\x0c'
  | 'r' => some '\r'
  | 'e' => some '\x1b'
  | ' ' => some ' '
  | '"' => some '"'
  | '/' => some '/'
  | '\\' => some '\\'
  | 'N' => some '\x85'
  | '_' => some '\xa0'
  | 'L' => some '\u2028'
  | 'P' => some '\u2029'
  | _ => none

/-- The number of hexadecimal digits after a letter that announces them. -/
def escapeDigits? : Char → Option Nat
  | 'x' => some 2
  | 'u' => some 4
  | 'U' => some 8
  | _ => none

/-- The character of an escape, and the place after it. -/
def readEscape? (cursor : Cursor) : Option (Char × Cursor) :=
  match cursor.rest with
  | '\\' :: letter :: rest =>
    match escapeDigits? letter with
    | some count => do
      let digits := rest.take count
      let n ← digitsValue? 16 digits
      if digits.length = count && n.isValidChar then
        return (Char.ofNat n, cursor.skip (2 + count))
      else none
    | none => (simpleEscape? letter).map fun c => (c, cursor.skip 2)
  | _ => none

/-- The rest of a part of a quoted scalar without blanks, the place after it, and whether an escaped
    break ends it. -/
def readQuotedPart? (single : Bool) : Nat → Cursor → Option (List Char × Cursor × Bool)
  | 0, cursor => some ([], cursor, false)
  | fuel + 1, cursor =>
    match cursor.rest with
    | [] => some ([], cursor, false)
    | c :: rest =>
      if isBlank c || isBreak c then some ([], cursor, false)
      else if single && c = '\x27' then
        if rest.head? = some '\x27' then
          (readQuotedPart? single fuel (cursor.skip 2)).map fun part => (c :: part.1, part.2)
        else some ([], cursor, false)
      else if !single && c = '"' then some ([], cursor, false)
      else if !single && c = '\\' then
        if rest.head?.any isBreak then some ([], cursor.next.nextLine.2, true)
        else do
          let (escaped, cursor) ← readEscape? cursor
          let (part, cursor) ← readQuotedPart? single fuel cursor
          return (escaped :: part, cursor)
      else (readQuotedPart? single fuel cursor.next).map fun part => (c :: part.1, part.2)

/-- The parts of a quoted scalar with the gaps between them, and the place of its closing quote. -/
def readQuotedFrom? (single : Bool) : Nat → Cursor → Option (List Char × Cursor)
  | 0, _ => none
  | fuel + 1, cursor =>
    if cursor.atDocumentMark || cursor.rest.isEmpty then none
    else do
      let (part, cursor, escaped) ← readQuotedPart? single (cursor.rest.length + 1) cursor
      if cursor.rest.head? = some (if single then '\x27' else '"') then return (part, cursor)
      let (gap, cursor) ← Gap.readFrom? 0 (cursor.rest.length + 1) { broken := escaped } cursor
      let (more, cursor) ← readQuotedFrom? single fuel cursor
      return (part ++ gap.text ++ more, cursor)

/-- A quoted scalar, from its opening quote on: its text and the place after it. -/
def readQuoted? (single : Bool) (cursor : Cursor) : Option (String × Cursor) :=
  (readQuotedFrom? single (cursor.rest.length + 1) cursor.next).map fun e =>
    (String.ofList e.1, e.2.next)

/-! ## Blocks of lines -/

/-- What becomes of the breaks at the end of a block. -/
inductive Chomping where
  | strip
  | clip
  | keep
  deriving Repr, DecidableEq

/-- The chomping that a sign asks for. -/
def chomping? : Char → Option Chomping
  | '-' => some .strip
  | '+' => some .keep
  | _ => none

/-- The indentation that a digit asks for; zero is none. -/
def increment? (c : Char) : Option Nat :=
  if c.isDigit && c ≠ '0' then some (c.toNat - 48) else none

/-- The sign and the digit after the mark of a block, in either order, and the place after them. -/
def readBlockHead? (cursor : Cursor) : Option (Chomping × Option Nat × Cursor) :=
  match cursor.rest with
  | a :: b :: _ =>
    match chomping? a, chomping? b with
    | some chomping, _ =>
      if b.isDigit then (increment? b).map fun n => (chomping, some n, cursor.skip 2)
      else some (chomping, none, cursor.next)
    | none, some chomping =>
      if a.isDigit then (increment? a).map fun n => (chomping, some n, cursor.skip 2)
      else some (.clip, none, cursor)
    | none, none =>
      if a.isDigit then (increment? a).map fun n => (.clip, some n, cursor.next)
      else some (.clip, none, cursor)
  | [a] =>
    match chomping? a with
    | some chomping => some (chomping, none, cursor.next)
    | none =>
      if a.isDigit then (increment? a).map fun n => (.clip, some n, cursor.next)
      else some (.clip, none, cursor)
  | [] => some (.clip, none, cursor)

/-- Skips spaces up to a column, or all of them. -/
def skipSpaces (limit? : Option Nat) (cursor : Cursor) : Cursor :=
  let spaces := (cursor.rest.takeWhile (· = ' ')).length
  cursor.skip (match limit? with
    | none => spaces
    | some limit => min spaces (limit - cursor.column))

/-- Skips the indentation of lines and the breaks of blank ones: the breaks, the greatest column that was
    reached, and the place after them. A tab in the indentation is refused. -/
def readBlockGap? (limit? : Option Nat) : Nat → Nat → Cursor → Option (List Char × Nat × Cursor)
  | 0, widest, cursor => some ([], widest, cursor)
  | fuel + 1, widest, cursor =>
    let cursor := skipSpaces limit? cursor
    let widest := max widest cursor.column
    match cursor.rest with
    | [] => some ([], widest, cursor)
    | c :: _ =>
      if c = '\t' && limit?.all (cursor.column < ·) then none
      else if isBreak c then do
        let (br, cursor) := cursor.nextLine
        let (more, widest, cursor) ← readBlockGap? limit? fuel widest cursor
        return (br ++ more, widest, cursor)
      else some ([], widest, cursor)

/-- The lines of a block from its first column on: their text, the break after the last line, the breaks
    after that, and the place after them. `lastBreak` is the break before the line, `breaks` are the
    breaks after that one, and `afterBlank` says that the line before starts with a blank. -/
def readBlockLines? (literal : Bool) (indent : Nat) (lastBreak breaks : List Char)
    (afterBlank : Bool) : Nat → Cursor → Option (List Char × List Char × List Char × Cursor)
  | 0, cursor => some ([], lastBreak, breaks, cursor)
  | fuel + 1, cursor =>
    if cursor.column ≠ indent || cursor.rest.isEmpty then some ([], lastBreak, breaks, cursor)
    else do
      let startsBlank := cursor.rest.head?.any isBlank
      let fold := !literal && lastBreak = ['\n'] && !afterBlank && !startsBlank
      let joint := if fold then (if breaks.isEmpty then [' '] else []) else lastBreak
      let (line, cursor) := cursor.takeWhile fun c => !isBreak c
      let (br, cursor) := cursor.nextLine
      let (gap, _, cursor) ← readBlockGap? (some indent) (cursor.rest.length + 1) 0 cursor
      let (more, lastBreak, breaksAfter, cursor) ←
        readBlockLines? literal indent br gap startsBlank fuel cursor
      return (joint ++ breaks ++ line ++ more, lastBreak, breaksAfter, cursor)

/-- A block of lines, from its mark on: its text and the place after it. The lines have to stand further
    right than the collection around the block, which stands at column `parent`, if there is one. -/
def readBlock? (literal : Bool) (parent : Option Nat) (cursor : Cursor) : Option (String × Cursor) := do
  let (chomping, increment, cursor) ← readBlockHead? cursor.next
  let (_, cursor) := cursor.takeWhile isBlank
  let (_, cursor) :=
    if cursor.rest.head? = some '#' then cursor.takeWhile (!isBreak ·) else ([], cursor)
  if !atLineEnd cursor.rest then none
  let (_, cursor) := cursor.nextLine
  let fixed := increment.map fun n => parent.getD 0 + n
  let (breaks, widest, cursor) ← readBlockGap? fixed (cursor.rest.length + 1) 0 cursor
  let least := match parent with
    | none => 1
    | some column => column + 1
  let indent := fixed.getD (max widest least)
  let (text, lastBreak, breaks, cursor) ←
    readBlockLines? literal indent [] breaks false (cursor.rest.length + 1) cursor
  let tail := match chomping with
    | .strip => []
    | .clip => lastBreak
    | .keep => lastBreak ++ breaks
  return (String.ofList (text ++ tail), cursor)

end TableCodegen.Yaml
