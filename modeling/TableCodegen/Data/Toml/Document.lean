import TableCodegen.Data.Resolve
import TableCodegen.Data.Toml.Scalar
import TableCodegen.Data.Toml.Table

/-!
# TOML documents

A document is a sequence of lines. A line gives a key a value, or opens the table that the following
lines are about.

Main definitions:

* `readValue?`: the value at the start of a text.
* `parse?`: the document tree of a text.
-/

namespace TableCodegen.Toml

/-! ## Values -/

/-- How deep lists and tables between braces may stand in each other. -/
def maxNesting : Nat := 80

mutual
/-- A value and the text after it. `fuel` bounds the steps, and `depth` how deep the value nests. -/
def readValue? : Nat → Nat → List Char → Option (Tree × List Char)
  | 0, _, _ => none
  | fuel + 1, depth, cs =>
    match cs with
    | '[' :: rest =>
      inside? depth fun depth => (readItems? fuel depth rest).map fun e => (.list e.1, e.2)
    | '\x7b' :: rest =>
      inside? depth fun depth => (readEntries? fuel depth [] rest).map fun e => (Entries.toTree e.1, e.2)
    | c :: _ =>
      if c = '"' || c = '\x27' then (readString? cs).map fun e => (.text e.1, e.2)
      else do
        let (word, rest) := readWord cs
        return (← bareScalar? word, rest)
    | [] => none

/-- The items of a list up to its end, and the text after it. -/
def readItems? : Nat → Nat → List Char → Option (List Tree × List Char)
  | 0, _, _ => none
  | fuel + 1, depth, cs => do
    match ← skipLines? (cs.length + 1) cs with
    | ']' :: rest => return ([], rest)
    | cs =>
      let (item, rest) ← readValue? fuel depth cs
      match ← skipLines? (rest.length + 1) rest with
      | ',' :: rest =>
        let (items, rest) ← readItems? fuel depth rest
        return (item :: items, rest)
      | ']' :: rest => return ([item], rest)
      | _ => none

/-- The entries of a table between braces up to its end, added to those before them, and the text after
    it. -/
def readEntries? : Nat → Nat → Entries → List Char → Option (Entries × List Char)
  | 0, _, _, _ => none
  | fuel + 1, depth, entries, cs => do
    match ← skipLines? (cs.length + 1) cs with
    | '\x7d' :: rest => return (entries, rest)
    | cs =>
      let (key, rest) ← readKey? cs
      let rest ← expect? '=' (skipSpace rest)
      let (value, rest) ← readValue? fuel depth (skipSpace rest)
      let entries ← assign? key value .header entries
      match ← skipLines? (rest.length + 1) rest with
      | ',' :: rest => readEntries? fuel depth entries rest
      | '\x7d' :: rest => return (entries, rest)
      | _ => none
end

/-! ## Lines -/

/-- A document up to some line: its tables, and the path of the one that lines are about. -/
structure State where
  root : Entries := []
  path : List String := []

/-- The document after the header of a table, and the text after its brackets. -/
def readTableHeader? (state : State) (cs : List Char) : Option (State × List Char) := do
  let (key, rest) ← readKey? cs
  let rest ← expect? ']' rest
  return (⟨← openTable? key state.root, key⟩, rest)

/-- The document after the header of an element of a list of tables, and the text after its brackets. -/
def readElementHeader? (state : State) (cs : List Char) : Option (State × List Char) := do
  let (key, rest) ← readKey? cs
  let rest ← expect? ']' (← expect? ']' rest)
  return (⟨← openElement? key state.root, key⟩, rest)

/-- The document after a key with its value, and the text after them. -/
def readAssignment? (state : State) (cs : List Char) : Option (State × List Char) := do
  let (key, rest) ← readKey? cs
  let rest ← expect? '=' rest
  let (value, rest) ← readValue? (rest.length + 1) maxNesting (skipSpace rest)
  let root ← changeAt? false (assign? key value) state.path .header state.root
  return ({ state with root := root }, rest)

/-- The document after some lines; `fuel` bounds their number. -/
def readLinesFrom? : Nat → State → List Char → Option State
  | 0, _, _ => none
  | fuel + 1, state, cs => do
    match ← skipLines? (cs.length + 1) cs with
    | [] => return state
    | cs =>
      let (state, rest) ← match cs with
        | '[' :: '[' :: rest => readElementHeader? state rest
        | '[' :: rest => readTableHeader? state rest
        | _ => readAssignment? state cs
      readLinesFrom? fuel state (← endLine? rest)

/-- Reads a TOML text; a mark of the byte order at its start does not count. -/
def parse? (text : String) : Option LimitedTree := do
  let cs := text.toList
  let cs := if cs.head? = some '\ufeff' then cs.tail else cs
  let state ← readLinesFrom? (cs.length + 1) {} cs
  return { tree := Entries.toTree state.root, limits := { depth := cs.length + 1 } }

end TableCodegen.Toml
