/-!
# UTF-8

Bytes as text. A sequence of bytes that is no character is measured by its longest part that could have
begun one, so that a reader can name it, or show it as one replacement character.

Main definitions:

* `decodeNext`: the first character of some bytes, or the extent of what is none.
* `decode`: bytes as a text, or the place and extent of the first fault.
* `decodeLossy`: bytes as a text with replacement characters.
-/

namespace TableCodegen.Text.Utf8

/-- How many bytes go on with a character that starts with the given byte, and the bounds of the first of
    them. -/
def following? (b : UInt8) : Option (Nat × UInt8 × UInt8) :=
  if 0xC2 ≤ b && b ≤ 0xDF then some (1, 0x80, 0xBF)
  else if b = 0xE0 then some (2, 0xA0, 0xBF)
  else if b = 0xED then some (2, 0x80, 0x9F)
  else if 0xE1 ≤ b && b ≤ 0xEF then some (2, 0x80, 0xBF)
  else if b = 0xF0 then some (3, 0x90, 0xBF)
  else if 0xF1 ≤ b && b ≤ 0xF3 then some (3, 0x80, 0xBF)
  else if b = 0xF4 then some (3, 0x80, 0x8F)
  else none

/-- The payload of a byte that starts a character with `more` bytes after it. -/
def leadBits (more : Nat) (b : UInt8) : Nat :=
  if more = 1 then b.toNat - 0xC0 else if more = 2 then b.toNat - 0xE0 else b.toNat - 0xF0

/-- What the start of some bytes is. -/
inductive Start where
  /-- A character of a number of bytes. -/
  | char (c : Char) (size : Nat)
  /-- Bytes that start no character. -/
  | invalid (size : Nat)
  /-- The start of a character that the end of the bytes cuts off. -/
  | cut (size : Nat)
  deriving Repr, DecidableEq

/-- Reads the bytes that go on with a character: `size` of its bytes are read, `more` are to come, and
    the next one lies between `low` and `high`. -/
def readMore : Nat → Nat → UInt8 → UInt8 → Nat → List UInt8 → Start
  | 0, size, _, _, bits, _ => .char (Char.ofNat bits) size
  | _ + 1, size, _, _, _, [] => .cut size
  | more + 1, size, low, high, bits, b :: rest =>
    if low ≤ b && b ≤ high then readMore more (size + 1) 0x80 0xBF (bits * 64 + (b.toNat - 0x80)) rest
    else .invalid size

/-- The start of some bytes, the first of which is given. -/
def decodeNext (b : UInt8) (rest : List UInt8) : Start :=
  if b < 0x80 then .char (Char.ofNat b.toNat) 1
  else match following? b with
    | none => .invalid 1
    | some (more, low, high) => readMore more 1 low high (leadBits more b) rest

/-- A part of some bytes that is no text. -/
structure Fault where
  /-- The number of bytes before it. -/
  offset : Nat
  /-- Its extent; nothing when more bytes could have made it a character. -/
  size? : Option Nat
  deriving Repr, DecidableEq

/-- Reads bytes from an offset on; `fuel` bounds the number of characters. -/
def decodeFrom : Nat → Nat → List UInt8 → Except Fault (List Char)
  | 0, _, _ => .ok []
  | _, _, [] => .ok []
  | fuel + 1, offset, b :: rest =>
    match decodeNext b rest with
    | .char c size => (decodeFrom fuel (offset + size) (rest.drop (size - 1))).map (c :: ·)
    | .invalid size => .error ⟨offset, some size⟩
    | .cut _ => .error ⟨offset, none⟩

/-- Bytes as a text. -/
def decode (bytes : List UInt8) : Except Fault String :=
  (decodeFrom bytes.length 0 bytes).map String.ofList

/-- The character that stands for bytes that are no text. -/
def replacement : Char := '\uFFFD'

/-- Reads bytes with replacement characters; `fuel` bounds the number of characters. -/
def decodeLossyFrom : Nat → List UInt8 → List Char
  | 0, _ => []
  | _, [] => []
  | fuel + 1, b :: rest =>
    match decodeNext b rest with
    | .char c size => c :: decodeLossyFrom fuel (rest.drop (size - 1))
    | .invalid size | .cut size => replacement :: decodeLossyFrom fuel (rest.drop (size - 1))

/-- Bytes as a text, with replacement characters for what is none. -/
def decodeLossy (bytes : List UInt8) : String :=
  String.ofList (decodeLossyFrom bytes.length bytes)

/-- The bytes of a text. -/
def encode (text : String) : List UInt8 :=
  text.toUTF8.toList

end TableCodegen.Text.Utf8
