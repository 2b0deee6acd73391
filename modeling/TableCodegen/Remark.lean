import TableCodegen.Text.Blank
import TableCodegen.Text.Unicode.Letters

/-!
# Remarks in comments

A comment can carry a set of allowed values in full-width brackets: `label（0 off 1 on）`. The text
before the first opening bracket is the label, and every run of digits between it and the last closing
bracket is one allowed value. A comment without such a pair of brackets is a label as a whole.

Main definitions:

* `bracketBody?`: the label and the body of a comment.
* `Remark`, `Remark.ofComment`: what a comment says.
-/

namespace TableCodegen

open TableCodegen.Text TableCodegen.Text.Unicode

/-- The full-width opening bracket. -/
def openBracket : Char := '（'

/-- The full-width closing bracket. -/
def closeBracket : Char := '）'

/-- What a comment says: its label and the allowed values that it lists. -/
structure Remark where
  label : String
  values : List String
  deriving Repr, DecidableEq

namespace Remark

/-- The part of a text before the last occurrence of `c`, if there is one. -/
def beforeLast? (c : Char) (cs : List Char) : Option (List Char) :=
  match cs.reverse.dropWhile (· != c) with
  | [] => none
  | _ :: before => some before.reverse

/-- The text before the first opening bracket, and the text from there to the last closing bracket
    after it. -/
def bracketBody? (cs : List Char) : Option (List Char × List Char) :=
  match cs.dropWhile (· != openBracket) with
  | [] => none
  | _ :: after => (beforeLast? closeBracket after).map fun body =>
      (cs.takeWhile (· != openBracket), body)

/-- The runs of decimal digits of a text. -/
def digitRuns (cs : List Char) : List (List Char) :=
  runs (fun c => !isDecimalDigit c) cs

/-- Reads a comment. -/
def ofComment (comment : String) : Remark :=
  let cs := comment.toList
  match bracketBody? cs with
  | some (label, body) => ⟨String.ofList (trim label), (digitRuns body).map String.ofList⟩
  | none => ⟨String.ofList (trim cs), []⟩

/-- The allowed values with a blank between neighbours. -/
def enums (a : Remark) : String :=
  " ".intercalate a.values

/-- The comment lists allowed values. -/
def hasEnums (a : Remark) : Bool :=
  !a.enums.isEmpty

/-- The space-joined values of a truth value. -/
def boolEnums : String := "0 1"

/-- The allowed values are 0 and 1. -/
def isBoolEnum (a : Remark) : Bool :=
  a.enums == boolEnums

end Remark

/-- The label of a comment. -/
def labelOf (comment : String) : String :=
  (Remark.ofComment comment).label

/-- The allowed values of a comment with a blank between neighbours. -/
def enumsOf (comment : String) : String :=
  (Remark.ofComment comment).enums

end TableCodegen
