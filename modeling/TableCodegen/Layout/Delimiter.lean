import TableCodegen.Failure
import TableCodegen.Text.Search

/-!
# Delimiters of route documents

Round and curly brackets structure a route document. Brackets in tags, in strings and in comments do
not count. A tag stands between backticks and may go over many lines; a string ends with a quote that
follows no backslash, or with its line; a comment goes from two slashes to the end of the line.

Main definitions:

* `ScanState.next`, `delimiters`: the delimiters of a document, with their places.
* `checkBalance`: every closer closes the opener before it, and every opener is closed.
* `RouteValidator`, `RouteValidator.delimiter`: checks of documents.
-/

namespace TableCodegen

/-! ## Scanning -/

/-- What a character is part of. -/
inductive ScanState where
  | code
  | string (afterBackslash : Bool)
  | tag
  deriving Repr, DecidableEq

/-- The character around tags. -/
def tagMark : Char := '\x60'

/-- What follows a character that starts no comment. -/
def ScanState.next (c : Char) : ScanState → ScanState
  | tag => if c = tagMark then code else tag
  | string afterBackslash => if c = '"' && !afterBackslash then code else string (c = '\\')
  | code => if c = tagMark then tag else if c = '"' then string false else code

/-- A comment starts with two slashes in code. -/
def ScanState.startsComment (state : ScanState) (c : Char) (rest : List Char) : Bool :=
  state = code && c = '/' && rest.head? = some '/'

/-- The two kinds of brackets. -/
inductive Bracket where
  | round
  | curly
  deriving Repr, DecidableEq

/-- A bracket with its side and its place; lines and columns count from one. -/
structure Delimiter where
  bracket : Bracket
  opens : Bool
  line : Nat
  column : Nat
  deriving Repr, DecidableEq

/-- The character of a delimiter. -/
def Delimiter.char (d : Delimiter) : Char :=
  match d.bracket, d.opens with
  | .round, true => '('
  | .round, false => ')'
  | .curly, true => '\x7b'
  | .curly, false => '\x7d'

/-- The kind and side of a bracket. -/
def bracketOf? (c : Char) : Option (Bracket × Bool) :=
  if c = '(' then some (.round, true)
  else if c = ')' then some (.round, false)
  else if c = '\x7b' then some (.curly, true)
  else if c = '\x7d' then some (.curly, false)
  else none

/-- The delimiter that a character of code is. -/
def delimiterAt? (state : ScanState) (c : Char) (line column : Nat) : Option Delimiter :=
  if state = .code then (bracketOf? c).map fun entry => ⟨entry.1, entry.2, line, column⟩ else none

/-- The delimiters of a line from a column on. -/
def lineDelimiters (line : Nat) : Nat → ScanState → List Char → List Delimiter
  | _, _, [] => []
  | column, state, c :: rest =>
    if state.startsComment c rest then []
    else
      (delimiterAt? state c line column).toList ++
        lineDelimiters line (column + 1) (state.next c) rest

/-- What the end of a line is part of. -/
def lineEnd : ScanState → List Char → ScanState
  | state, [] => state
  | state, c :: rest => if state.startsComment c rest then state else lineEnd (state.next c) rest

/-- What the start of the next line is part of: only tags go on. -/
def ScanState.acrossLines : ScanState → ScanState
  | tag => tag
  | _ => code

/-- The delimiters of lines from a line number on. -/
def delimitersFrom : Nat → ScanState → List (List Char) → List Delimiter
  | _, _, [] => []
  | number, state, line :: rest =>
    lineDelimiters number 1 state line ++
      delimitersFrom (number + 1) (lineEnd state line).acrossLines rest

/-- The delimiters of a document, in order. -/
def delimiters (document : List Char) : List Delimiter :=
  delimitersFrom 1 .code (Text.lines document)

/-! ## Balance -/

/-- Why the delimiters of a document do not pair up. -/
inductive BalanceFault where
  /-- A closer without an opener. -/
  | stray (closer : Delimiter)
  /-- A closer of another kind than the opener before it. -/
  | mismatched (closer opener : Delimiter)
  /-- An opener that is never closed. -/
  | unclosed (opener : Delimiter)
  deriving Repr, DecidableEq

namespace BalanceFault

/-- The delimiter at fault. -/
def culprit : BalanceFault → Delimiter
  | stray d | mismatched d _ | unclosed d => d

/-- A delimiter between backticks. -/
def shown (d : Delimiter) : String :=
  String.ofList [tagMark, d.char, tagMark]

/-- The fault in words. -/
def detail : BalanceFault → String
  | stray d => "unexpected " ++ shown d
  | mismatched d opener =>
    shown d ++ " does not close " ++ shown opener ++ " opened at " ++ toString opener.line ++ ":" ++
      toString opener.column
  | unclosed d => shown d ++ " is never closed"

/-- The fault as a cause. -/
def toCause (fault : BalanceFault) : Cause :=
  .rejected fault.culprit.line fault.culprit.column fault.detail

end BalanceFault

/-- Pairs delimiters up; the stack holds the openers that are not closed yet, last one first. -/
def checkFrom : List Delimiter → List Delimiter → Except BalanceFault Unit
  | [], [] => .ok ()
  | opener :: _, [] => .error (.unclosed opener)
  | stack, d :: rest =>
    if d.opens then checkFrom (d :: stack) rest
    else match stack with
      | [] => .error (.stray d)
      | opener :: outer =>
        if opener.bracket = d.bracket then checkFrom outer rest else .error (.mismatched d opener)

/-- Pairs the delimiters of a document up. -/
def checkBalance (document : List Char) : Except BalanceFault Unit :=
  checkFrom [] (delimiters document)

/-! ## Validators -/

/-- A check of a document before it is laid out. -/
abbrev RouteValidator := String → Except Failure Unit

/-- The check that delimiters pair up. -/
def RouteValidator.delimiter : RouteValidator := fun document =>
  (checkBalance document.toList).mapError fun fault => .ofCause fault.toCause

end TableCodegen
