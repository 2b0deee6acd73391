import TableCodegen.Data.Toml.Scalar

/-!
# Writing TOML

Document trees as TOML documents. The values of a map come first, in one table; maps and lists of maps
below it become tables of their own, with headers and an empty line between them. Absent values are left
out.

Main definitions:

* `writeString`, `writeKey`: texts as strings and keys, in the first style that needs no escapes.
* `renderValue`: a value on the line of its key.
* `render`: a whole document.
-/

namespace TableCodegen.Toml

/-! ## Strings -/

/-- A way to write a string. -/
inductive StringStyle where
  /-- With escapes, on one line. -/
  | basic
  /-- Without escapes, on one line. -/
  | literal
  /-- With escapes, on many lines. -/
  | basicLines
  /-- Without escapes, on many lines. -/
  | literalLines
  deriving Repr, DecidableEq

/-- A character that only an escape can stand for. -/
def needsEscape (c : Char) : Bool :=
  isControl c && c ≠ '\n'

/-- More than so many quotes stand in a row. -/
def hasRun (quote : Char) (limit : Nat) : Nat → List Char → Bool
  | _, [] => false
  | run, c :: rest =>
    if c = quote then limit < run + 1 || hasRun quote limit (run + 1) rest
    else hasRun quote limit 0 rest

/-- The style of a string: the first that needs no escapes, or one with escapes. -/
def stringStyle (cs : List Char) : StringStyle :=
  let escapes := cs.any needsEscape
  let backslash := cs.contains '\\'
  let newline := cs.contains '\n'
  if !(escapes || backslash || cs.contains '"' || newline) then .basic
  else if !(escapes || cs.contains '\x27' || newline) then .literal
  else if !(escapes || backslash || hasRun '"' 2 0 cs) then .basicLines
  else if !(escapes || hasRun '\x27' 2 0 cs) then .literalLines
  else if newline then .basicLines
  else .basic

/-- A hexadecimal digit in capitals. -/
def hexDigit (n : Nat) : Char :=
  Char.ofNat (if n < 10 then 48 + n else 55 + n)

/-- A character of a string with escapes that is no quote. -/
def escapeChar (c : Char) : List Char :=
  if c = '\x08' then ['\\', 'b']
  else if c = '\t' then ['\\', 't']
  else if c = '\n' then ['\\', 'n']
  else if c = '\x0c' then ['\\', 'f']
  else if c = '\r' then ['\\', 'r']
  else if c = '\\' then ['\\', '\\']
  else if isControl c then ['\\', 'u', '0', '0', hexDigit (c.toNat / 16), hexDigit (c.toNat % 16)]
  else [c]

/-- The characters of a string with escapes. Breaks stay on many lines; of quotes in a row, so many are
    written before one is escaped. -/
def escaped (lines : Bool) (limit : Nat) : Nat → List Char → List Char
  | _, [] => []
  | run, c :: rest =>
    if c = '"' then
      if limit ≤ run then '\\' :: '"' :: escaped lines limit 0 rest
      else '"' :: escaped lines limit (run + 1) rest
    else if lines && c = '\n' then '\n' :: escaped lines limit 0 rest
    else escapeChar c ++ escaped lines limit 0 rest

/-- Three quotes, and a break before a string that has breaks itself. -/
def openLines (quote : Char) (cs : List Char) : List Char :=
  [quote, quote, quote] ++ if cs.contains '\n' then ['\n'] else []

/-- A string in a style. -/
def writeIn (style : StringStyle) (cs : List Char) : List Char :=
  match style with
  | .basic => '"' :: escaped false 0 0 cs ++ ['"']
  | .literal => '\x27' :: cs ++ ['\x27']
  | .basicLines => openLines '"' cs ++ escaped true 2 0 cs ++ ['"', '"', '"']
  | .literalLines => openLines '\x27' cs ++ cs ++ ['\x27', '\x27', '\x27']

/-- A text as a string. -/
def writeString (text : String) : String :=
  String.ofList (writeIn (stringStyle text.toList) text.toList)

/-- A text as a key: without quotes if it can be, and never on many lines. -/
def writeKey (text : String) : String :=
  let cs := text.toList
  let escapes := cs.any isControl
  if !cs.isEmpty && cs.all isBareKeyChar then text
  else if escapes || (cs.contains '\x27' && (cs.contains '"' || cs.contains '\\')) then
    String.ofList (writeIn .basic cs)
  else if cs.contains '"' || cs.contains '\\' then String.ofList (writeIn .literal cs)
  else String.ofList (writeIn .basic cs)

/-! ## Values -/

/-- A list from its items. Two items or more take a line each. -/
def listText : List String → String
  | [] => "[]"
  | [item] => "[" ++ item ++ "]"
  | items => "[\n" ++ String.join (items.map fun item => "    " ++ item ++ ",\n") ++ "]"

/-- A map between braces from its entries. -/
def inlineText (entries : List String) : String :=
  if entries.isEmpty then "\x7b\x7d" else "\x7b " ++ ", ".intercalate entries ++ " \x7d"

mutual
/-- A value on the line of its key. -/
def renderValue : Tree → String
  | .null => "\"\""
  | .bool b => if b then "true" else "false"
  | .int i => toString i
  | .real s => s
  | .text s => writeString s
  | .loose scalar => writeString scalar.text
  | .list items => listText (renderItems items)
  | .plainList _ items => listText (renderItems items)
  | .map entries => inlineText (renderInline entries)
  | .shared node => renderValue (node ())
  | .looseMap .. | .unreadable => "\"\""

/-- The items of a list. -/
def renderItems : List Tree → List String
  | [] => []
  | item :: rest => renderValue item :: renderItems rest

/-- The entries of a map between braces. -/
def renderInline : List (String × Tree) → List String
  | [] => []
  | (key, value) :: rest => (writeKey key ++ " = " ++ renderValue value) :: renderInline rest
end

/-! ## Tables -/

/-- The value is a map. -/
def isMap : Tree → Bool
  | .map _ => true
  | _ => false

/-- The value becomes tables: it is a map, or a list of maps. -/
def isTabular : Tree → Bool
  | .map _ => true
  | .list items => !items.isEmpty && items.all isMap
  | _ => false

/-- The lines of the values of a table. -/
def bodyLines (entries : List (String × Tree)) : List String :=
  (entries.filter fun (_, value) => !isTabular value && !value matches .null).map
    fun (key, value) => writeKey key ++ " = " ++ renderValue value ++ "\n"

/-- What stands above the lines of a table. -/
inductive Heading where
  | root
  | table (path : List String)
  | element (path : List String)
  deriving Repr, DecidableEq

/-- The line of a heading. -/
def Heading.toText : Heading → String
  | root => ""
  | table path => "[" ++ ".".intercalate (path.map writeKey) ++ "]\n"
  | element path => "[[" ++ ".".intercalate (path.map writeKey) ++ "]]\n"

/-- The heading stands there even if no line follows it. -/
def Heading.isKept : Heading → Bool
  | element _ => true
  | _ => false

/-- A table, and the tables below it. It is left out if it has no lines of its own but has tables
    below. -/
def sectionsOf (heading : Heading) (entries : List (String × Tree)) (below : List String) :
    List String :=
  let body := bodyLines entries
  if body.isEmpty && !heading.isKept && (heading = .root || !below.isEmpty) then below
  else (heading.toText ++ String.join body) :: below

mutual
/-- The tables below one with a path and entries. -/
def tablesBelow (path : List String) : List (String × Tree) → List String
  | [] => []
  | (key, .map entries) :: rest =>
    sectionsOf (.table (path ++ [key])) entries (tablesBelow (path ++ [key]) entries) ++
      tablesBelow path rest
  | (key, .list items) :: rest =>
    (if isTabular (.list items) then elementTables (path ++ [key]) items else []) ++
      tablesBelow path rest
  | _ :: rest => tablesBelow path rest

/-- The tables of the elements of a list of tables. -/
def elementTables (path : List String) : List Tree → List String
  | [] => []
  | .map entries :: rest =>
    sectionsOf (.element path) entries (tablesBelow path entries) ++ elementTables path rest
  | _ :: rest => elementTables path rest
end

/-- Writes a tree, which has to be a map, as a TOML document. -/
def render : Tree → String
  | .map entries => "\n".intercalate (sectionsOf .root entries (tablesBelow [] entries))
  | tree => renderValue tree

end TableCodegen.Toml
