import TableCodegen.Data.Resolve

/-!
# JSON

Document trees as JSON texts. A text holds one value with blanks around it. Objects keep the order of
their entries and may repeat a key; every number is an integer unless it has a fraction, an exponent,
more than 64 bits, or is a negative zero. A number that is too great and a string with half of a
character are no faults of the text, but nobody can read them.

Main definitions:

* `Json.parse?`: reading.
* `Json.render`: writing, with two spaces for each level.
-/

namespace TableCodegen.Json

/-! ## Reading -/

/-- Blanks between the parts of a value. -/
def isSpace (c : Char) : Bool :=
  c = ' ' || c = '\n' || c = '\t' || c = '\r'

/-- The text after its leading blanks. -/
def skipSpace (cs : List Char) : List Char :=
  cs.dropWhile isSpace

/-- The value of four hexadecimal digits, and the text after them. -/
def readHex4? : List Char → Option (Nat × List Char)
  | a :: b :: c :: d :: rest => (digitsValue? 16 [a, b, c, d]).map (·, rest)
  | _ => none

/-- The high half of a pair that stands for one character. -/
def isHighHalf (n : Nat) : Bool := 0xD800 ≤ n && n ≤ 0xDBFF

/-- The low half of a pair that stands for one character. -/
def isLowHalf (n : Nat) : Bool := 0xDC00 ≤ n && n ≤ 0xDFFF

/-- The character of an escape by number, if it is one, and the text after it; a half needs its other
    half. -/
def readEscapedNumber? (cs : List Char) : Option (Option Char × List Char) := do
  let (n, rest) ← readHex4? cs
  if isLowHalf n then return (none, rest)
  else if isHighHalf n then
    match rest with
    | '\\' :: 'u' :: more =>
      match readHex4? more with
      | some (m, more) =>
        if isLowHalf m then
          return (some (Char.ofNat (0x10000 + (n - 0xD800) * 0x400 + (m - 0xDC00))), more)
        else return (none, rest)
      | none => none
    | _ => return (none, rest)
  else return (some (Char.ofNat n), rest)

/-- The character that a letter after a backslash stands for. -/
def simpleEscape? : Char → Option Char
  | '"' => some '"'
  | '\\' => some '\\'
  | '/' => some '/'
  | 'b' => some '\x08'
  | 'f' => some '\x0c'
  | 'n' => some '\n'
  | 'r' => some '\r'
  | 't' => some '\t'
  | _ => none

/-- A string with one more character; one that holds half of a character is no text. -/
def consChar (c? : Option Char) (entry : Option (List Char) × List Char) :
    Option (List Char) × List Char :=
  ((do return (← c?) :: (← entry.1)), entry.2)

/-- The characters of a string up to its closing quote, if it is a text, and the text after it; `fuel`
    bounds their number. -/
def readChars? : Nat → List Char → Option (Option (List Char) × List Char)
  | 0, _ => none
  | _, [] => none
  | _, '"' :: rest => some (some [], rest)
  | fuel + 1, '\\' :: 'u' :: rest => do
    let (c?, rest) ← readEscapedNumber? rest
    return consChar c? (← readChars? fuel rest)
  | fuel + 1, '\\' :: letter :: rest => do
    let c ← simpleEscape? letter
    return consChar (some c) (← readChars? fuel rest)
  | fuel + 1, c :: rest =>
    if c.toNat < 0x20 || c = '\\' then none
    else (readChars? fuel rest).map (consChar (some c))

/-- A string after its opening quote, if it is a text, and the text after it. -/
def readString? (cs : List Char) : Option (Option String × List Char) :=
  (readChars? (cs.length + 1) cs).map fun entry => (entry.1.map String.ofList, entry.2)

/-- The digits at the start of a text, and the text after them; there must be one or more. -/
def readDigits? (cs : List Char) : Option (List Char × List Char) :=
  let digits := cs.takeWhile Char.isDigit
  if digits.isEmpty then none else some (digits, cs.dropWhile Char.isDigit)

/-- The fraction of a number with its point, and the text after it. -/
def readFraction? : List Char → Option (List Char × List Char)
  | '.' :: rest => (readDigits? rest).map fun entry => ('.' :: entry.1, entry.2)
  | cs => some ([], cs)

/-- The exponent of a number with its mark, and the text after it. -/
def readExponent? (cs : List Char) : Option (List Char × List Char) :=
  match cs with
  | c :: rest =>
    if c = 'e' || c = 'E' then
      match rest with
      | s :: more =>
        if s = '+' || s = '-' then
          (readDigits? more).map fun entry => (c :: s :: entry.1, entry.2)
        else (readDigits? rest).map fun entry => (c :: entry.1, entry.2)
      | [] => none
    else some ([], cs)
  | [] => some ([], cs)

/-- A number without its sign, and the text after it. -/
def readNumber? (negative : Bool) (cs : List Char) : Option (Tree × List Char) := do
  let (whole, rest) ← readDigits? cs
  if hasLeadingZero whole then none
  let (fraction, rest) ← readFraction? rest
  let (exponent, rest) ← readExponent? rest
  let size := (digitsValue? 10 whole).getD 0
  let value : Int := if negative then -(size : Int) else size
  if fraction.isEmpty && exponent.isEmpty && fitsWord value && !(negative && size = 0) then
    return (.int value, rest)
  else
    let unsigned := whole ++ fraction ++ exponent
    let text := String.ofList (if negative then '-' :: unsigned else unsigned)
    return (if decimalOverflows unsigned then .unreadable else .real text, rest)

/-- A text, or what nobody can read. -/
def ofText? (text? : Option String) : Tree :=
  match text? with
  | some text => .text text
  | none => .unreadable

/-- A value that is no list and no object, and the text after it. -/
def readScalar? : List Char → Option (Tree × List Char)
  | '"' :: rest => (readString? rest).map fun entry => (ofText? entry.1, entry.2)
  | 't' :: 'r' :: 'u' :: 'e' :: rest => some (.bool true, rest)
  | 'f' :: 'a' :: 'l' :: 's' :: 'e' :: rest => some (.bool false, rest)
  | 'n' :: 'u' :: 'l' :: 'l' :: rest => some (.null, rest)
  | '-' :: rest => readNumber? true rest
  | cs => readNumber? false cs

/-- An object of which every key is a text, or what nobody can read. -/
def ofEntries (entries : List (Option String × Tree)) : Tree :=
  match entries.mapM fun entry => entry.1.map (·, entry.2) with
  | some entries => .map entries
  | none => .unreadable

mutual
/-- A value and the text after it; `fuel` bounds the steps. -/
def readValue? : Nat → List Char → Option (Tree × List Char)
  | 0, _ => none
  | fuel + 1, cs =>
    match skipSpace cs with
    | '[' :: rest => (readItems? fuel true rest).map fun e => (.list e.1, e.2)
    | '\x7b' :: rest => (readEntries? fuel true rest).map fun e => (ofEntries e.1, e.2)
    | cs => readScalar? cs

/-- The items of a list up to its end, and the text after it; `first` says that no item was read yet. -/
def readItems? : Nat → Bool → List Char → Option (List Tree × List Char)
  | 0, _, _ => none
  | fuel + 1, first, cs =>
    match skipSpace cs with
    | ']' :: rest => some ([], rest)
    | cs => do
      let cs ← if first then some cs else match cs with
        | ',' :: rest => some rest
        | _ => none
      let (item, rest) ← readValue? fuel cs
      let (items, rest) ← readItems? fuel false rest
      return (item :: items, rest)

/-- The entries of an object up to its end, and the text after it; `first` says that no entry was read
    yet. -/
def readEntries? : Nat → Bool → List Char → Option (List (Option String × Tree) × List Char)
  | 0, _, _ => none
  | fuel + 1, first, cs =>
    match skipSpace cs with
    | '\x7d' :: rest => some ([], rest)
    | cs => do
      let cs ← if first then some cs else match cs with
        | ',' :: rest => some (skipSpace rest)
        | _ => none
      let (key?, rest) ← match cs with
        | '"' :: rest => readString? rest
        | _ => none
      let rest ← match skipSpace rest with
        | ':' :: rest => some rest
        | _ => none
      let (value, rest) ← readValue? fuel rest
      let (entries, rest) ← readEntries? fuel false rest
      return ((key?, value) :: entries, rest)
end

/-- What may be read through at the top of a text: 127 lists and objects stand around a value at most. -/
def limits : Limits := { depth := 126 }

/-- Reads a JSON text. -/
def parse? (text : String) : Option LimitedTree := do
  let cs := text.toList
  let (tree, rest) ← readValue? (2 * cs.length + 2) cs
  if (skipSpace rest).isEmpty then some ⟨tree, limits⟩ else none

/-! ## Writing -/

/-- The hexadecimal digit of a small number. -/
def hexDigit (n : Nat) : Char :=
  if n < 10 then Char.ofNat (48 + n) else Char.ofNat (87 + n)

/-- A character of a string. -/
def escapeChar (c : Char) : List Char :=
  if c = '"' then ['\\', '"']
  else if c = '\\' then ['\\', '\\']
  else if c = '\n' then ['\\', 'n']
  else if c = '\t' then ['\\', 't']
  else if c = '\r' then ['\\', 'r']
  else if c = '\x08' then ['\\', 'b']
  else if c = '\x0c' then ['\\', 'f']
  else if c.toNat < 0x20 then ['\\', 'u', '0', '0', hexDigit (c.toNat / 16), hexDigit (c.toNat % 16)]
  else [c]

/-- A string between quotes. -/
def quoted (s : String) : String :=
  "\"" ++ String.ofList (s.toList.flatMap escapeChar) ++ "\""

/-- The indentation of a level. -/
def indentation (level : Nat) : String :=
  String.ofList (List.replicate (2 * level) ' ')

/-- A list or an object from the texts of its parts. -/
def bracketed (level : Nat) (opening closing : String) (parts : List String) : String :=
  if parts.isEmpty then opening ++ closing
  else
    opening ++ "\n" ++ ",\n".intercalate (parts.map (indentation (level + 1) ++ ·)) ++ "\n" ++
      indentation level ++ closing

mutual
/-- A tree at a level. -/
def renderAt (level : Nat) : Tree → String
  | .null => "null"
  | .bool b => if b then "true" else "false"
  | .int i => toString i
  | .real s => s
  | .text s => quoted s
  | .loose scalar => quoted scalar.text
  | .list items => bracketed level "[" "]" (renderItems (level + 1) items)
  | .plainList _ items => bracketed level "[" "]" (renderItems (level + 1) items)
  | .map entries => bracketed level "\x7b" "\x7d" (renderEntries (level + 1) entries)
  | .shared node => renderAt level (node ())
  | .looseMap .. | .unreadable => "null"

/-- The items of a list at a level. -/
def renderItems (level : Nat) : List Tree → List String
  | [] => []
  | item :: rest => renderAt level item :: renderItems level rest

/-- The entries of an object at a level. -/
def renderEntries (level : Nat) : List (String × Tree) → List String
  | [] => []
  | (key, value) :: rest => (quoted key ++ ": " ++ renderAt level value) :: renderEntries level rest
end

/-- Writes a tree as a JSON text. -/
def render (tree : Tree) : String :=
  renderAt 0 tree

end TableCodegen.Json
