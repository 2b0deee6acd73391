import TableCodegen.Data.Yaml.Style

/-!
# Writing YAML

Document trees as YAML documents. Maps and lists are written in blocks, unless they are empty. The
entries of a map stand below each other, two columns further right than what holds them; the items of a
list stand at the column of their key. A key that cannot stand before a colon has a question mark before
it and a line of its own.
-/

namespace TableCodegen.Yaml

/-- Spaces up to a column. -/
def indentation (column : Nat) : String :=
  String.ofList (padding column)

/-- Texts below each other at a column, where the first one already stands there. -/
def stacked (column : Nat) (texts : List String) : String :=
  (indentation column).intercalate texts

/-- The column of the items of a list after a key, or after a hyphen or a colon alone. -/
def itemColumn (afterKey : Bool) (column : Nat) : Nat :=
  if afterKey then column else column + 2

/-- A list from its items: below a key, and on the line of a hyphen or of a colon alone. -/
def placeList (afterKey : Bool) (column : Nat) (items : List String) : String :=
  if items.isEmpty then " []\n"
  else (if afterKey then "\n" ++ indentation column else " ") ++ stacked (itemColumn afterKey column) items

/-- A map from its entries: below a key, and on the line of a hyphen or of a colon alone. -/
def placeMap (afterKey : Bool) (column : Nat) (entries : List String) : String :=
  if entries.isEmpty then " \x7b\x7d\n"
  else (if afterKey then "\n" ++ indentation (column + 2) else " ") ++ stacked (column + 2) entries

/-- A key at a column, up to its colon. -/
def keyText (isSimple : Bool) (column : Nat) (key : String) : String :=
  if isSimple then writeKey key else "? " ++ writeScalar (column + 2) key ++ indentation column

mutual
/-- A tree after a simple key and its colon, or else after a hyphen or a colon alone, at a column, up to
    the end of its line. -/
def renderAfter (afterKey : Bool) (column : Nat) : Tree → String
  | .null => " null\n"
  | .bool b => if b then " true\n" else " false\n"
  | .int i => " " ++ toString i ++ "\n"
  | .real s => " " ++ s ++ "\n"
  | .text s => " " ++ writeScalar (column + 2) s
  | .loose scalar => " " ++ writeScalar (column + 2) scalar.text
  | .list items => placeList afterKey column (renderItems (itemColumn afterKey column) items)
  | .plainList _ items => placeList afterKey column (renderItems (itemColumn afterKey column) items)
  | .map entries => placeMap afterKey column (renderEntries (column + 2) entries)
  | .shared node => renderAfter afterKey column (node ())
  | .looseMap .. | .unreadable => " null\n"

/-- The items of a list at a column, each with its hyphen. -/
def renderItems (column : Nat) : List Tree → List String
  | [] => []
  | item :: rest => ("-" ++ renderAfter false column item) :: renderItems column rest

/-- The entries of a map at a column, each with its key. -/
def renderEntries (column : Nat) : List (String × Tree) → List String
  | [] => []
  | (key, value) :: rest =>
    let isSimple := isSimpleKey key
    (keyText isSimple column key ++ ":" ++ renderAfter isSimple column value) :: renderEntries column rest
end

/-- Writes a tree as a YAML document. -/
def render (tree : Tree) : String :=
  match tree with
  | .list items => if items.isEmpty then "[]\n" else stacked 0 (renderItems 0 items)
  | .map entries => if entries.isEmpty then "\x7b\x7d\n" else stacked 0 (renderEntries 0 entries)
  | scalar => ((renderAfter false 0 scalar).drop 1).toString

end TableCodegen.Yaml
