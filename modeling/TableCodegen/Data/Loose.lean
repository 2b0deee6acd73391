import TableCodegen.Data.Tree

/-!
# Loose scalars

What the text of a loose scalar can stand for. A reader that asks for a type gets it from plain scalars
whatever their tag, and from literal blocks that carry the tag of the type. Without a reader the tag
decides, and where it says nothing the first type that fits a plain text.

Main definitions:

* `digitsValue?`, `decimalOverflows`: numbers from their digits.
* `looseNull`, `looseBool?`, `looseNat?`, `looseInt?`, `isLooseReal`: what a text can stand for.
* `LooseScalar.bool?`, `LooseScalar.nat?`, `LooseScalar.int?`, `LooseScalar.isAbsent?`: what a scalar is
  to a reader that asks for a type.
* `looseScalar`, `LooseScalar.value?`: what it is to nobody in particular.
-/

namespace TableCodegen

/-! ## Digits -/

/-- The value of a digit in a base up to sixteen. -/
def digitValue? (base : Nat) (c : Char) : Option Nat :=
  let n := c.toNat
  let value :=
    if c.isDigit then n - 48
    else if 97 ≤ n && n ≤ 102 then n - 87
    else if 65 ≤ n && n ≤ 70 then n - 55
    else base
  if value < base then some value else none

/-- The number that digits in a base stand for; there must be one digit or more. -/
def digitsValue? (base : Nat) (cs : List Char) : Option Nat :=
  if cs.isEmpty then none
  else cs.foldl (fun acc c => do
    let total ← acc
    let digit ← digitValue? base c
    return total * base + digit) (some 0)

/-- Digits of which the first is a needless zero. -/
def hasLeadingZero (cs : List Char) : Bool :=
  match cs with
  | '0' :: rest => !rest.isEmpty && rest.all Char.isDigit
  | _ => false

/-- A text without its sign, and whether the sign is a minus. -/
def splitSign : List Char → Bool × List Char
  | '+' :: rest => (false, rest)
  | '-' :: rest => (true, rest)
  | cs => (false, cs)

/-- A character between a decimal number and its exponent. -/
def isExponentMark (c : Char) : Bool :=
  c = 'e' || c = 'E'

/-- Digits with at most one point among them, and one digit or more. -/
def isDecimalMantissa (cs : List Char) : Bool :=
  let whole := cs.takeWhile Char.isDigit
  match cs.dropWhile Char.isDigit with
  | [] => !whole.isEmpty
  | '.' :: fraction => fraction.all Char.isDigit && !(whole.isEmpty && fraction.isEmpty)
  | _ => false

/-- An exponent: digits after an optional sign. -/
def isExponent (cs : List Char) : Bool :=
  let digits := (splitSign cs).2
  !digits.isEmpty && digits.all Char.isDigit

/-- A decimal number without a sign, with an optional exponent. -/
def isDecimal (cs : List Char) : Bool :=
  isDecimalMantissa (cs.takeWhile (!isExponentMark ·)) &&
    match cs.dropWhile (!isExponentMark ·) with
    | [] => true
    | _ :: rest => isExponent rest

/-- The least number that rounds to infinity in double precision: half a step beyond the greatest. -/
def overflowBound : Nat := Nat.pow 2 1024 - Nat.pow 2 970

/-- A decimal number without a sign is too great for double precision. Its number of digits decides,
    unless it comes close. -/
def decimalOverflows (cs : List Char) : Bool :=
  let mantissa := cs.takeWhile (!isExponentMark ·)
  let (negative, exponent) := splitSign ((cs.dropWhile (!isExponentMark ·)).drop 1)
  let size : Int := ((digitsValue? 10 exponent).getD 0 : Nat)
  let places := ((mantissa.dropWhile (· ≠ '.')).drop 1).length
  let scale : Int := (if negative then -size else size) - places
  let digits := (mantissa.filter Char.isDigit).dropWhile (· = '0')
  let width : Int := digits.length + scale
  let value := (digitsValue? 10 digits).getD 0
  if digits.isEmpty || width < 305 then false
  else if 312 < width then true
  else overflowBound * Nat.pow 10 (-scale).toNat ≤ value * Nat.pow 10 scale.toNat

/-! ## Texts -/

/-- The text is a word for the absent value. -/
def isNullWord (s : String) : Bool :=
  s == "~" || s == "null" || s == "Null" || s == "NULL"

/-- The text stands for the absent value. -/
def looseNull (s : String) : Bool :=
  s.isEmpty || isNullWord s

/-- The truth value that a text stands for. -/
def looseBool? (s : String) : Option Bool :=
  if s == "true" || s == "True" || s == "TRUE" then some true
  else if s == "false" || s == "False" || s == "FALSE" then some false
  else none

/-- The number that unsigned digits stand for: decimal without a leading zero, or in the base that
    `0x`, `0o` or `0b` announces. -/
def magnitude? (cs : List Char) : Option Nat :=
  match cs with
  | '0' :: 'x' :: rest => digitsValue? 16 rest
  | '0' :: 'o' :: rest => digitsValue? 8 rest
  | '0' :: 'b' :: rest => digitsValue? 2 rest
  | _ => if hasLeadingZero cs then none else digitsValue? 10 cs

/-- The number that a text without a minus stands for. -/
def looseNat? (s : String) : Option Nat :=
  match splitSign s.toList with
  | (true, _) => none
  | (false, cs) => magnitude? cs

/-- The integer that a text stands for. -/
def looseInt? (s : String) : Option Int :=
  match splitSign s.toList with
  | (true, cs) => (magnitude? cs).map fun n => -(n : Int)
  | (false, cs) => (magnitude? cs).map Int.ofNat

/-- The text stands for a number in double precision: a decimal number that is not too great, an infinity
    or no number. -/
def isNumberText (s : String) : Bool :=
  let unsigned := (splitSign s.toList).2
  (isDecimal unsigned && !decimalOverflows unsigned) ||
    [".inf", ".Inf", ".INF"].any (·.toList == unsigned) || [".nan", ".NaN", ".NAN"].contains s

/-- The text stands for a number that is no integer. -/
def isLooseReal (s : String) : Bool :=
  !hasLeadingZero (splitSign s.toList).2 && isNumberText s

/-- An integer that fits into 64 bits, with a sign or without. -/
def fitsWord (i : Int) : Bool :=
  -9223372036854775808 ≤ i && i ≤ 18446744073709551615

/-- An integer that fits into 128 bits, with a sign or without. -/
def fitsDoubleWord (i : Int) : Bool :=
  -170141183460469231731687303715884105728 ≤ i && i ≤ 340282366920938463463374607431768211455

/-- What a text stands for when nobody asks for a type. -/
def looseScalar (s : String) : Tree :=
  if looseNull s then .null
  else match looseBool? s with
    | some b => .bool b
    | none => match (looseInt? s).filter fitsDoubleWord with
      | some i => .int i
      | none => if isLooseReal s then .real s else .text s

/-! ## Scalars -/

namespace LooseScalar

/-- The scalar without text that stands for whatever is left out. -/
def empty : LooseScalar := { text := "" }

/-- A reader that asks for the type of a tag may look at the text. -/
def isOpenTo (scalar : LooseScalar) (tag : LooseTag) : Bool :=
  scalar.style = .plain || (scalar.style = .literal && scalar.tag = tag)

/-- The scalar is left out. -/
def isLeftOut (scalar : LooseScalar) : Bool :=
  scalar.style = .plain && scalar.text.isEmpty

/-- The truth value that a reader gets. -/
def bool? (scalar : LooseScalar) : Option Bool :=
  if scalar.isOpenTo .bool then looseBool? scalar.text else none

/-- The number that a reader of unsigned integers gets. -/
def nat? (scalar : LooseScalar) : Option Nat :=
  if scalar.isOpenTo .int then looseNat? scalar.text else none

/-- The number that a reader of integers gets. -/
def int? (scalar : LooseScalar) : Option Int :=
  if scalar.isOpenTo .int then looseInt? scalar.text else none

/-- Whether a reader of a value that may be absent finds it absent; the tag of the absent value admits
    only the words for it. -/
def isAbsent? (scalar : LooseScalar) : Option Bool :=
  if scalar.style ≠ .plain then some false
  else match scalar.tag with
    | .null => if isNullWord scalar.text then some true else none
    | .absent => some (looseNull scalar.text)
    | _ => some false

/-- What the scalar stands for when nobody asks for a type. -/
def value? (scalar : LooseScalar) : Option Tree :=
  match scalar.tag with
  | .bool => (looseBool? scalar.text).map .bool
  | .int => (looseInt? scalar.text).map .int
  | .real => if isNumberText scalar.text then some (.real scalar.text) else none
  | .null => if isNullWord scalar.text then some .null else none
  | .own => none
  | .other => some (.text scalar.text)
  | .absent => some (if scalar.style = .plain then looseScalar scalar.text else .text scalar.text)

end LooseScalar

end TableCodegen
