import TableCodegen.Text.Unicode.CaseTables

/-!
# Letter case in all scripts

Capitals and small letters of a character are lists, because some letters grow when they change case.
Texts are mapped letter by letter, with one rule that looks around: a capital sigma at the end of a
word becomes the final small sigma.

Main definitions:

* `isUpper`, `isLower`: the properties `Uppercase` and `Lowercase`.
* `upper`, `lower`: the full case maps of one character.
* `upperText`, `lowerText`: the case maps of a text.
-/

namespace TableCodegen.Text.Unicode

/-- A capital letter of any script. -/
def isUpper (c : Char) : Bool :=
  if c.toNat < 128 then c.isUpper else inSpans uppercaseSpans c.toNat

/-- A small letter of any script. -/
def isLower (c : Char) : Bool :=
  if c.toNat < 128 then c.isLower else inSpans lowercaseSpans c.toNat

/-- A letter that has case: capital, small or title. -/
def isCased (c : Char) : Bool :=
  isUpper c || isLower c || inSpans titlecaseSpans c.toNat

/-- A character that is skipped when the end of a word is looked for. -/
def isCaseIgnorable (c : Char) : Bool :=
  if c.toNat < 128 then c == '.' || c == ':' || c == '^' || c.toNat == 0x27 || c.toNat == 0x60
  else inSpans caseIgnorableSpans c.toNat

/-- The case map given by a list of expansions and a list of shifts; all else stays as it is. -/
def mapCase (expansions : List (Nat × List Nat)) (shifts : List Shift) (c : Char) : List Char :=
  match expansions.lookup c.toNat with
  | some image => image.map Char.ofNat
  | none => [((shifted? shifts c.toNat).map Char.ofNat).getD c]

/-- The capital form of a character. -/
def upper (c : Char) : List Char :=
  if c.toNat < 128 then [c.toUpper] else mapCase upperExpansions upperShifts c

/-- The small form of a character, without regard to its neighbours. -/
def lower (c : Char) : List Char :=
  if c.toNat < 128 then [c.toLower] else mapCase lowerExpansions lowerShifts c

/-- A text in capitals. -/
def upperText (cs : List Char) : List Char :=
  cs.flatMap upper

/-- The first character that is not case-ignorable has case. -/
def meetsCased (cs : List Char) : Bool :=
  ((cs.dropWhile isCaseIgnorable).head?).any isCased

/-- The small form of a character between the text before it, last character first, and the text
    after it. A capital sigma is final when a cased letter stands before it and none after it. -/
def lowerBetween (before : List Char) (c : Char) (after : List Char) : List Char :=
  if c = 'Σ' then [if meetsCased before && !meetsCased after then 'ς' else 'σ'] else lower c

/-- The small form of a text that follows `before`, last character first. -/
def lowerAfter (before : List Char) : List Char → List Char
  | [] => []
  | c :: rest => lowerBetween before c rest ++ lowerAfter (c :: before) rest

/-- A text in small letters. -/
def lowerText (cs : List Char) : List Char :=
  lowerAfter [] cs

end TableCodegen.Text.Unicode
