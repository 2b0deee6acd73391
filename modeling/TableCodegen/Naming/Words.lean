import TableCodegen.Text.Unicode.Case
import TableCodegen.Text.Unicode.Letters
import TableCodegen.Text.Blank

/-!
# Words of an identifier

Two ways to cut an identifier into words.

* `capitalWords` cuts before every capital, so that the words joined give the identifier back.
* `mixedWords` reads free text: words are separated by anything but letters and numbers, and inside a
  run of those a new word starts where case says so (`userName`, `XMLHttp`).
-/

namespace TableCodegen.Naming

open TableCodegen.Text TableCodegen.Text.Unicode

/-! ## Words that start at a capital -/

/-- The words of what is left to read; `word` is the word being read, last character first. -/
def capitalWordsFrom (word : List Char) : List Char → List (List Char)
  | [] => if word.isEmpty then [] else [word.reverse]
  | c :: rest =>
    if isUpper c && !word.isEmpty then word.reverse :: capitalWordsFrom [c] rest
    else capitalWordsFrom (c :: word) rest

/-- The pieces of an identifier, each but the first starting at a capital, and every capital starting
    a piece. -/
def capitalWords (cs : List Char) : List (List Char) :=
  capitalWordsFrom [] cs

/-! ## Words of free text -/

/-- The case of the last cased character of the word being read. -/
inductive Mode where
  | unset
  | small
  | capital
  deriving Repr, DecidableEq

/-- The case seen after one more character; a character without case changes nothing. -/
def Mode.after (mode : Mode) (c : Char) : Mode :=
  if isLower c then .small else if isUpper c then .capital else mode

/-- The words of a run of letters and numbers; `word` is the word being read, last character first. A
    word ends before a capital that follows a small letter, and before the last capital of several
    when a small letter comes next. -/
def mixedWordsFrom (mode : Mode) (word : List Char) : List Char → List (List Char)
  | [] => if word.isEmpty then [] else [word.reverse]
  | c :: rest =>
    match rest.head? with
    | none => [(c :: word).reverse]
    | some next =>
      if mode.after c = .small && isUpper next then
        (c :: word).reverse :: mixedWordsFrom .unset [] rest
      else if mode = .capital && isUpper c && isLower next then
        word.reverse :: mixedWordsFrom .unset [c] rest
      else mixedWordsFrom (mode.after c) (c :: word) rest

/-- The words of a text, whatever separates them. -/
def mixedWords (cs : List Char) : List (List Char) :=
  (runs (fun c => !isAlphanumeric c) cs).flatMap (mixedWordsFrom .unset [])

end TableCodegen.Naming
