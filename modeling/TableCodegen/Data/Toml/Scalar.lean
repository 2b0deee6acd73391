import TableCodegen.Data.Loose
import TableCodegen.Text.Search

/-!
# Scalars of TOML

Keys, strings, numbers, truth values and dates. Every reader takes what stands at the start of a text and
gives back the text after it.

Main definitions:

* `endLine?`, `skipLines?`: ends of lines with their comments.
* `readString?`, `readKey?`: strings and keys.
* `bareScalar?`: what a word without quotes stands for.
-/

namespace TableCodegen.Toml

open TableCodegen.Text

/-! ## Blanks and comments -/

/-- A space or a tab. -/
def isSpace (c : Char) : Bool :=
  c = ' ' || c = '\t'

/-- A control character other than a tab. -/
def isControl (c : Char) : Bool :=
  (c.toNat < 0x20 && c ≠ '\t') || c.toNat = 0x7F

/-- The text after its leading blanks. -/
def skipSpace (cs : List Char) : List Char :=
  cs.dropWhile isSpace

/-- The text after the rest of a line, which holds blanks and a comment at most. -/
def endLine? (cs : List Char) : Option (List Char) :=
  let line := (skipSpace cs).takeWhile (· ≠ '\n')
  let rest := (skipSpace cs).dropWhile (· ≠ '\n')
  let content := if line.getLast? = some '\r' && !rest.isEmpty then line.dropLast else line
  match content with
  | [] => some rest.tail
  | '#' :: comment => if comment.any isControl then none else some rest.tail
  | _ => none

/-- The text after blanks, comments and ends of lines; `fuel` bounds the number of lines. -/
def skipLines? : Nat → List Char → Option (List Char)
  | 0, cs => some cs
  | fuel + 1, cs =>
    match skipSpace cs with
    | [] => some []
    | c :: rest =>
      if c = '\n' || c = '\r' || c = '#' then (endLine? (c :: rest)).bind (skipLines? fuel)
      else some (c :: rest)

/-! ## Strings -/

/-- The number of hexadecimal digits after a letter that announces them. -/
def escapeDigits? : Char → Option Nat
  | 'x' => some 2
  | 'u' => some 4
  | 'U' => some 8
  | _ => none

/-- The character that a letter after a backslash stands for. -/
def simpleEscape? : Char → Option Char
  | 'b' => some '\x08'
  | 't' => some '\t'
  | 'n' => some '\n'
  | 'f' => some '\x0c'
  | 'r' => some '\r'
  | 'e' => some '\x1b'
  | '"' => some '"'
  | '\\' => some '\\'
  | _ => none

/-- The character of an escape after its backslash. -/
def readEscape? : List Char → Option (Char × List Char)
  | [] => none
  | letter :: rest =>
    match escapeDigits? letter with
    | some count => do
      let digits := rest.take count
      let n ← digitsValue? 16 digits
      if digits.length = count && n.isValidChar then return (Char.ofNat n, rest.drop count) else none
    | none => (simpleEscape? letter).map (·, rest)

/-- A text with one more character, and the text after it. -/
def consChar (c : Char) (entry : List Char × List Char) : List Char × List Char :=
  (c :: entry.1, entry.2)

/-- The rest of a string with escapes on one line; `fuel` bounds the number of characters. -/
def readBasic? : Nat → List Char → Option (List Char × List Char)
  | 0, _ => none
  | _, [] => none
  | fuel + 1, c :: rest =>
    if c = '"' then some ([], rest)
    else if c = '\\' then do
      let (escaped, rest) ← readEscape? rest
      return consChar escaped (← readBasic? fuel rest)
    else if isControl c then none
    else (readBasic? fuel rest).map (consChar c)

/-- The rest of a string without escapes on one line. -/
def readLiteral? (cs : List Char) : Option (List Char × List Char) :=
  let text := cs.takeWhile (· ≠ '\x27')
  match cs.dropWhile (· ≠ '\x27') with
  | _ :: rest => if text.any isControl then none else some (text, rest)
  | [] => none

/-- The text after blanks and ends of lines. -/
def skipBlanks : List Char → List Char
  | '\r' :: '\n' :: rest => skipBlanks rest
  | c :: rest => if isSpace c || c = '\n' then skipBlanks rest else c :: rest
  | [] => []

/-- A line ends here, after blanks. -/
def atLineEnd (cs : List Char) : Bool :=
  match skipSpace cs with
  | '\n' :: _ => true
  | '\r' :: '\n' :: _ => true
  | _ => false

/-- Three quotes in a row stand here. -/
def atClosing (quote : Char) (cs : List Char) : Bool :=
  cs.take 3 = [quote, quote, quote]

/-- The quotes that belong to a string of many lines before its three closing ones, which stand here:
    two at most. -/
def extraQuotes (quote : Char) (cs : List Char) : List Char :=
  ((cs.drop 3).take 2).takeWhile (· = quote)

/-- The rest of a string of many lines; `escapes` says whether it has any. A backslash before the end of
    a line removes all blanks up to the next character. `fuel` bounds the number of characters. -/
def readLines? (escapes : Bool) (quote : Char) : Nat → List Char → Option (List Char × List Char)
  | 0, _ => none
  | _, [] => none
  | fuel + 1, c :: rest =>
    if atClosing quote (c :: rest) then
      let extra := extraQuotes quote (c :: rest)
      some (extra, rest.drop (2 + extra.length))
    else if escapes && c = '\\' then
      if atLineEnd rest then readLines? escapes quote fuel (skipBlanks rest)
      else do
        let (escaped, rest) ← readEscape? rest
        return consChar escaped (← readLines? escapes quote fuel rest)
    else if c = '\r' then
      if rest.head? = some '\n' then readLines? escapes quote fuel rest else none
    else if isControl c && c ≠ '\n' then none
    else (readLines? escapes quote fuel rest).map (consChar c)

/-- The text without an end of line at its start. -/
def dropFirstBreak : List Char → List Char
  | '\n' :: rest => rest
  | '\r' :: '\n' :: rest => rest
  | cs => cs

/-- A string that is no key: one of the four kinds. -/
def readString? (cs : List Char) : Option (String × List Char) :=
  let entry? := match cs with
    | '"' :: '"' :: '"' :: rest => readLines? true '"' (rest.length + 1) (dropFirstBreak rest)
    | '\x27' :: '\x27' :: '\x27' :: rest => readLines? false '\x27' (rest.length + 1) (dropFirstBreak rest)
    | '"' :: rest => readBasic? (rest.length + 1) rest
    | '\x27' :: rest => readLiteral? rest
    | _ => none
  entry?.map fun entry => (String.ofList entry.1, entry.2)

/-! ## Keys -/

/-- A character of a key without quotes. -/
def isBareKeyChar (c : Char) : Bool :=
  c.isAlphanum || c = '_' || c = '-'

/-- A key without dots. -/
def readSimpleKey? (cs : List Char) : Option (String × List Char) :=
  match cs with
  | '"' :: rest => (readBasic? (rest.length + 1) rest).map fun e => (String.ofList e.1, e.2)
  | '\x27' :: rest => (readLiteral? rest).map fun e => (String.ofList e.1, e.2)
  | _ =>
    let key := cs.takeWhile isBareKeyChar
    if key.isEmpty then none else some (String.ofList key, cs.dropWhile isBareKeyChar)

/-- The parts of a key between its dots; `fuel` bounds their number. -/
def readKeyFrom? : Nat → List Char → Option (List String × List Char)
  | 0, _ => none
  | fuel + 1, cs => do
    let (key, rest) ← readSimpleKey? (skipSpace cs)
    match skipSpace rest with
    | '.' :: more =>
      let (keys, rest) ← readKeyFrom? fuel more
      return (key :: keys, rest)
    | rest => return ([key], rest)

/-- A key. -/
def readKey? (cs : List Char) : Option (List String × List Char) :=
  readKeyFrom? (cs.length + 1) cs

/-! ## Numbers -/

/-- Digits without the underscores between them; there must be a digit on either side of each. -/
def joinDigits? (isDigit : Char → Bool) (cs : List Char) : Option (List Char) :=
  let groups := splitBy (· = '_') cs
  if groups.any (·.isEmpty) || !groups.flatten.all isDigit then none else some groups.flatten

/-- Decimal digits without a needless zero at their start. -/
def wholeDigits? (cs : List Char) : Option (List Char) :=
  (joinDigits? Char.isDigit cs).filter fun digits => !hasLeadingZero digits

/-- The number that digits in a base stand for. -/
def radixNumber? (base : Nat) (cs : List Char) : Option Nat := do
  digitsValue? base (← joinDigits? (fun c => (digitValue? base c).isSome) cs)

/-- The integer that a word stands for; it has to fit into 128 bits. -/
def integer? (word : List Char) : Option Int := do
  let i ← match word with
    | '0' :: 'x' :: rest => (radixNumber? 16 rest).map Int.ofNat
    | '0' :: 'o' :: rest => (radixNumber? 8 rest).map Int.ofNat
    | '0' :: 'b' :: rest => (radixNumber? 2 rest).map Int.ofNat
    | _ =>
      let (negative, digits) := splitSign word
      let n ← digitsValue? 10 (← wholeDigits? digits)
      if negative then some (-(n : Int)) else some (n : Int)
  if fitsDoubleWord i then some i else none

/-- A word is a number with a fraction or an exponent that is not too great, an infinity or no number. -/
def isReal (word : List Char) : Bool :=
  let (_, unsigned) := splitSign word
  let mantissa := unsigned.takeWhile (!isExponentMark ·)
  let exponent := unsigned.dropWhile (!isExponentMark ·)
  let whole := mantissa.takeWhile (· ≠ '.')
  let fraction := mantissa.dropWhile (· ≠ '.')
  let hasDigits := fun cs => (joinDigits? Char.isDigit cs).isSome
  unsigned = "inf".toList || unsigned = "nan".toList ||
    ((wholeDigits? whole).isSome && (fraction.isEmpty || hasDigits fraction.tail) &&
      (exponent.isEmpty || hasDigits (splitSign exponent.tail).2) &&
      !(fraction.isEmpty && exponent.isEmpty) && !decimalOverflows (unsigned.filter (· ≠ '_')))

/-! ## Dates -/

/-- The number at the start of a text in a fixed number of digits, and the text after it. -/
def fixedNumber? (width : Nat) (cs : List Char) : Option (Nat × List Char) :=
  let digits := cs.take width
  if digits.length = width && digits.all Char.isDigit then
    (digitsValue? 10 digits).map (·, cs.drop width)
  else none

/-- The text after one character. -/
def expect? (c : Char) : List Char → Option (List Char)
  | d :: rest => if d = c then some rest else none
  | [] => none

/-- The days of a month. -/
def daysOfMonth (year month : Nat) : Nat :=
  if month = 2 then
    if (year % 4 = 0 && year % 100 ≠ 0) || year % 400 = 0 then 29 else 28
  else if [4, 6, 9, 11].contains month then 30
  else 31

/-- The text after a date. -/
def skipDate? (cs : List Char) : Option (List Char) := do
  let (year, rest) ← fixedNumber? 4 cs
  let (month, rest) ← fixedNumber? 2 (← expect? '-' rest)
  let (day, rest) ← fixedNumber? 2 (← expect? '-' rest)
  if 1 ≤ month && month ≤ 12 && 1 ≤ day && day ≤ daysOfMonth year month then some rest else none

/-- The text after a fraction of a second, if there is one. -/
def skipSecondFraction? : List Char → Option (List Char)
  | '.' :: rest =>
    if rest.head?.any Char.isDigit then some (rest.dropWhile Char.isDigit) else none
  | cs => some cs

/-- The text after a time of day; its seconds may be left out. -/
def skipTime? (cs : List Char) : Option (List Char) := do
  let (hour, rest) ← fixedNumber? 2 cs
  let (minute, rest) ← fixedNumber? 2 (← expect? ':' rest)
  if 23 < hour || 59 < minute then none
  match rest with
  | ':' :: rest =>
    let (second, rest) ← fixedNumber? 2 rest
    if 60 < second then none
    skipSecondFraction? rest
  | _ => return rest

/-- The rest of a word is an offset from universal time, or nothing. -/
def isOffset : List Char → Bool
  | [] => true
  | ['Z'] => true
  | ['z'] => true
  | sign :: rest =>
    (sign = '+' || sign = '-') && (do
      let (hour, rest) ← fixedNumber? 2 rest
      let (minute, rest) ← fixedNumber? 2 (← expect? ':' rest)
      return hour ≤ 24 && minute ≤ 59 && rest.isEmpty) = some true

/-- A word is a date, a time of day, or both. -/
def isDateTime (word : List Char) : Bool :=
  match skipDate? word with
  | some [] => true
  | some (c :: rest) => (c = 'T' || c = 't' || c = ' ') && (skipTime? rest).any isOffset
  | none => skipTime? word = some []

/-! ## Words -/

/-- A character that ends a word without quotes. -/
def endsWord (c : Char) : Bool :=
  isSpace c || c = '\n' || c = '\r' || c = ',' || c = ']' || c = '\x7d' || c = '#'

/-- A word without quotes; a blank between a date and a time of day belongs to it. -/
def readWord (cs : List Char) : List Char × List Char :=
  let word := cs.takeWhile (!endsWord ·)
  let rest := cs.dropWhile (!endsWord ·)
  match rest with
  | ' ' :: more =>
    if skipDate? word = some [] && more.head?.any Char.isDigit then
      (word ++ ' ' :: more.takeWhile (!endsWord ·), more.dropWhile (!endsWord ·))
    else (word, rest)
  | _ => (word, rest)

/-- A date, which is a record of its own. -/
def dateTree (word : List Char) : Tree :=
  .map [("date", .text (String.ofList word))]

/-- What a word without quotes stands for. -/
def bareScalar? (word : List Char) : Option Tree :=
  if word = "true".toList then some (.bool true)
  else if word = "false".toList then some (.bool false)
  else match integer? word with
    | some i => some (.int i)
    | none =>
      if isReal word then some (.real (String.ofList word))
      else if isDateTime word then some (dateTree word)
      else none

end TableCodegen.Toml
