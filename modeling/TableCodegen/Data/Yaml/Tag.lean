import TableCodegen.Data.Loose
import TableCodegen.Data.Yaml.Token

/-!
# Tags and directives of YAML

A tag is a handle and a suffix, or a whole name between angle brackets. Its bytes are written as they are
or by number. Directives before a document give its version and what the handles of its tags stand for.

Main definitions:

* `readTag?`: a tag.
* `readDirective?`: a directive.
* `Handles`, `Handles.resolve?`: handles and the names of tags.
* `looseTag`: what the name of a tag says about a scalar.
-/

namespace TableCodegen.Yaml

open TableCodegen.Text

/-! ## Characters -/

/-- A letter, a digit, a hyphen or an underscore. -/
def isNameChar (c : Char) : Bool :=
  c.isAlphanum || c = '-' || c = '_'

/-- A character of the name of a tag; some stand only between angle brackets and in directives. -/
def isTagChar (whole : Bool) (c : Char) : Bool :=
  isNameChar c ||
    [';', '/', '?', ':', '@', '&', '=', '+', '$', '.', '!', '~', '*', '\x27', '(', ')'].contains c ||
    (whole && [',', '[', ']'].contains c)

/-- The byte of two hexadecimal digits after a percent sign. -/
def percentByte? : List Char → Option UInt8
  | '%' :: a :: b :: _ => (digitsValue? 16 [a, b]).map UInt8.ofNat
  | _ => none

/-- The number of bytes of a character, by its first byte. -/
def sequenceSize? (b : UInt8) : Option Nat :=
  if b < 0x80 then some 1
  else if 0xC0 ≤ b && b < 0xE0 then some 2
  else if 0xE0 ≤ b && b < 0xF0 then some 3
  else if 0xF0 ≤ b && b < 0xF8 then some 4
  else none

/-- The bytes by number that go on with a character. -/
def readTrailing? : Nat → Cursor → Option (List UInt8 × Cursor)
  | 0, cursor => some ([], cursor)
  | count + 1, cursor => do
    let b ← percentByte? cursor.rest
    if b < 0x80 || 0xC0 ≤ b then none
    let (bytes, cursor) ← readTrailing? count (cursor.skip 3)
    return (b :: bytes, cursor)

/-- The bytes of a character by number, and the place after them. -/
def readPercent? (cursor : Cursor) : Option (List UInt8 × Cursor) := do
  let b ← percentByte? cursor.rest
  let (bytes, cursor) ← readTrailing? ((← sequenceSize? b) - 1) (cursor.skip 3)
  return (b :: bytes, cursor)

/-- The bytes of the name of a tag, and the place after them; `fuel` bounds the number of characters. -/
def readBytes? (whole : Bool) : Nat → Cursor → Option (List UInt8 × Cursor)
  | 0, cursor => some ([], cursor)
  | fuel + 1, cursor =>
    match cursor.rest with
    | [] => some ([], cursor)
    | c :: _ =>
      if c = '%' then do
        let (bytes, cursor) ← readPercent? cursor
        let (more, cursor) ← readBytes? whole fuel cursor
        return (bytes ++ more, cursor)
      else if isTagChar whole c then
        (readBytes? whole fuel cursor.next).map fun part => (UInt8.ofNat c.toNat :: part.1, part.2)
      else some ([], cursor)

/-- The bytes of the name of a tag, of which there is one or more. -/
def readName? (whole : Bool) (cursor : Cursor) : Option (List UInt8 × Cursor) :=
  (readBytes? whole (cursor.rest.length + 1) cursor).filter (!·.1.isEmpty)

/-! ## Tags -/

/-- An exclamation mark, letters after it, and a second mark, if there is one. -/
def readHandle (cursor : Cursor) : List Char × Cursor :=
  let (letters, after) := cursor.next.takeWhile isNameChar
  if after.rest.head? = some '!' then ('!' :: letters ++ ['!'], after.next) else ('!' :: letters, after)

/-- A handle with two marks. -/
def isClosedHandle (handle : List Char) : Bool :=
  handle.length > 1 && handle.getLast? = some '!'

/-- A tag: its handle, which is empty when the name is whole, its other bytes, and the place after it. -/
def readTag? (cursor : Cursor) : Option (String × List UInt8 × Cursor) :=
  match cursor.rest with
  | '!' :: '<' :: _ => do
    let (bytes, cursor) ← readName? true (cursor.skip 2)
    if cursor.rest.head? = some '>' then return ("", bytes, cursor.next) else none
  | _ => do
    let (handle, after) := readHandle cursor
    if isClosedHandle handle then
      let (bytes, cursor) ← readName? false after
      return (String.ofList handle, bytes, cursor)
    else
      let (more, cursor) ← readBytes? false (after.rest.length + 1) after
      let bytes := Utf8.encode (String.ofList handle.tail) ++ more
      if bytes.isEmpty then return ("", Utf8.encode "!", cursor) else return ("!", bytes, cursor)

/-! ## Directives -/

/-- The place after blanks. -/
def skipBlanks (cursor : Cursor) : Cursor :=
  (cursor.takeWhile isBlank).2

/-- A number of a version. -/
def readVersionNumber? (cursor : Cursor) : Option (Nat × Cursor) :=
  let (digits, after) := cursor.takeWhile Char.isDigit
  if digits.length > 9 then none else (digitsValue? 10 digits).map (·, after)

/-- The version of a directive. -/
def readVersion? (cursor : Cursor) : Option (Token × Cursor) := do
  let (major, cursor) ← readVersionNumber? cursor
  if cursor.rest.head? ≠ some '.' then none
  let (minor, cursor) ← readVersionNumber? cursor.next
  return (.versionDirective major minor, cursor)

/-- The handle of a directive and what it stands for. -/
def readHandleMeaning? (cursor : Cursor) : Option (Token × Cursor) := do
  if cursor.rest.head? ≠ some '!' then none
  let (handle, cursor) := readHandle cursor
  if !isClosedHandle handle && handle ≠ ['!'] then none
  if !cursor.rest.head?.any isBlank then none
  let (bytes, cursor) ← readName? true (skipBlanks cursor)
  if !atGap cursor.rest then none
  return (.tagDirective (String.ofList handle) bytes, cursor)

/-- A directive after its percent sign, and the place after its line. -/
def readDirective? (cursor : Cursor) : Option (Token × Cursor) := do
  let (name, cursor) := cursor.takeWhile isNameChar
  if !atGap cursor.rest then none
  let (directive, cursor) ←
    if name = "YAML".toList then readVersion? (skipBlanks cursor)
    else if name = "TAG".toList then readHandleMeaning? (skipBlanks cursor)
    else none
  let cursor := skipBlanks cursor
  let cursor := if cursor.rest.head? = some '#' then (cursor.takeWhile (!isBreak ·)).2 else cursor
  if atLineEnd cursor.rest then return (directive, cursor.nextLine.2) else none

/-! ## Names -/

/-- What the handles of a document stand for. -/
abbrev Handles := List (String × List UInt8)

namespace Handles

/-- The handles that every document knows, unless it gives them another meaning. -/
def standard : Handles := [("!", Utf8.encode "!"), ("!!", Utf8.encode "tag:yaml.org,2002:")]

/-- The name of a tag; its handle must be known. -/
def resolve? (handles : Handles) (handle : String) (bytes : List UInt8) : Option (List UInt8) :=
  if handle.isEmpty then some bytes else (handles.lookup handle).map (· ++ bytes)

end Handles

/-- A name that a document makes for itself: an exclamation mark and a text. -/
def isOwnName : List UInt8 → Bool
  | 0x21 :: rest => (Utf8.decode rest).isOk
  | _ => false

/-- What a tag says about the type of a scalar. -/
def looseTag (name : List UInt8) : LooseTag :=
  let is (text : String) : Bool := name = Utf8.encode ("tag:yaml.org,2002:" ++ text)
  if isOwnName name then .own
  else if is "null" then .null
  else if is "bool" then .bool
  else if is "int" then .int
  else if is "float" then .real
  else .other

end TableCodegen.Yaml
