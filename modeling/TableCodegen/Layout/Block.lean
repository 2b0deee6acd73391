import TableCodegen.Text.Blank
import TableCodegen.Text.Search
import TableCodegen.Text.Unicode.Case

/-!
# Lines of type blocks

A source formatter knows structures only with their keyword, which route documents leave out. Before a
block goes to a formatter, the keyword is put before the brace of every structure, and members get the
capital that makes them visible; afterwards the keyword is taken out again.

Main definitions:

* `codePart`: a line without its comment.
* `blockLine`: a line as a formatter gets it.
* `withoutKeyword`: a formatted block without the keyword.
-/

namespace TableCodegen

open TableCodegen.Text

/-! ## Code -/

/-- The text before the first two slashes outside quotes; `quote` is the mark that ends the quoted
    part being read. -/
def codeFrom : Option Char → List Char → List Char
  | _, [] => []
  | some quote, c :: rest => c :: codeFrom (if c = quote then none else some quote) rest
  | none, c :: rest =>
    if c = '/' && rest.head? = some '/' then []
    else c :: codeFrom (if c = '"' || c = '\x60' then some c else none) rest

/-- The code of a line: what stands before its comment, without blanks around it. -/
def codePart (line : List Char) : List Char :=
  trim (codeFrom none line)

/-- The text ends with a character. -/
def endsWithChar (c : Char) (cs : List Char) : Bool :=
  cs.getLast? = some c

/-- The code ends with an opening bracket. -/
def endsOpen (code : List Char) : Bool :=
  endsWithChar '\x7b' code || endsWithChar '(' code

/-- The code is nothing but a closing bracket. -/
def isLoneCloser (code : List Char) : Bool :=
  code = ['\x7d'] || code = [')']

/-- The code opens a structure and closes it at once. -/
def isEmptyBody (code : List Char) : Bool :=
  endsWithChar '\x7d' code && endsWithChar '\x7b' (trimEnd code.dropLast)

/-! ## The keyword -/

/-- The keyword of structures behind a blank. -/
def spacedKeyword : List Char := " struct".toList

/-- A line with the keyword before its first brace, unless it has the keyword already. -/
def withKeyword (line : List Char) : List Char :=
  if contains spacedKeyword line then line
  else match line.dropWhile (· != '\x7b') with
    | [] => line
    | body => trimEnd (line.takeWhile (· != '\x7b')) ++ spacedKeyword ++ [' '] ++ body

/-- A text with its first letter in capital form. -/
def capitalized : List Char → List Char
  | [] => []
  | c :: rest => Unicode.upper c ++ rest

/-- A line of a block as a formatter gets it. -/
def blockLine (line : List Char) : List Char :=
  let code := codePart line
  if endsWithChar '\x7b' code || isEmptyBody code then withKeyword line
  else if code.contains '\x60' then capitalized (trim line)
  else line

/-- A formatted block without the keyword of structures and without empty groups. -/
def withoutKeyword (formatted : List Char) : List Char :=
  replace "type ()".toList [] (replace " struct\x7b\x7d".toList " \x7b\x7d".toList
    (replace " struct ".toList [' '] formatted))

end TableCodegen
