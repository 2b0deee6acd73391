/-!
# Blanks

The property `White_Space`, and what is cut at it: the ends of a text and the words of a text.

Main definitions:

* `isBlank`: the property `White_Space`.
* `trim`, `trimStart`, `trimEnd`: a text without blanks at its ends.
* `words`: the maximal runs without a blank.
-/

namespace TableCodegen.Text

/-- A blank of any script, line breaks included. -/
def isBlank (c : Char) : Bool :=
  let n := c.toNat
  (9 ≤ n && n ≤ 13) || n == 0x20 || n == 0x85 || n == 0xA0 || n == 0x1680 ||
    (0x2000 ≤ n && n ≤ 0x200A) || n == 0x2028 || n == 0x2029 || n == 0x202F || n == 0x205F ||
    n == 0x3000

/-- The list without its longest final part on which `p` holds. -/
def dropEndWhile {α : Type} (p : α → Bool) (cs : List α) : List α :=
  (cs.reverse.dropWhile p).reverse

/-- The list without its longest first and last parts on which `p` holds. -/
def dropAroundWhile {α : Type} (p : α → Bool) (cs : List α) : List α :=
  dropEndWhile p (cs.dropWhile p)

/-- A text without blanks at its start. -/
def trimStart (cs : List Char) : List Char :=
  cs.dropWhile isBlank

/-- A text without blanks at its end. -/
def trimEnd (cs : List Char) : List Char :=
  dropEndWhile isBlank cs

/-- A text without blanks at its ends. -/
def trim (cs : List Char) : List Char :=
  dropAroundWhile isBlank cs

/-- The maximal runs of characters that fail `p`, in order; `run` is the run being read, last
    character first. -/
def runsFrom {α : Type} (p : α → Bool) (run : List α) : List α → List (List α)
  | [] => if run.isEmpty then [] else [run.reverse]
  | c :: rest =>
    if p c then
      if run.isEmpty then runsFrom p [] rest else run.reverse :: runsFrom p [] rest
    else runsFrom p (c :: run) rest

/-- The maximal non-empty runs of characters that fail `p`, in order. -/
def runs {α : Type} (p : α → Bool) (cs : List α) : List (List α) :=
  runsFrom p [] cs

/-- The words of a text: its maximal runs without a blank. -/
def words (cs : List Char) : List (List Char) :=
  runs isBlank cs

/-- The words of a text with one space between neighbours. -/
def joinWords (cs : List Char) : List Char :=
  List.intercalate [' '] (words cs)

/-- A text without blanks at its ends. -/
def trimmed (text : String) : String :=
  String.ofList (trim text.toList)

/-- A text that has no character but blanks. -/
def isBlankText (text : String) : Bool :=
  text.toList.all isBlank

end TableCodegen.Text
