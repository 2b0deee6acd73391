import TableCodegen.Data.Loose

/-!
# Reading values from document trees

Readers of the types that settings and catalogs are made of. A reader answers nothing when the tree does
not describe a value of its type. Numbers have to be in range, a scalar is never converted to another
type, and a loose scalar is whatever the reader asks for, if its text allows it.

A record is read from a map, in which unknown keys are ignored and a known key may occur once, or from
the list of its values in the order of its fields. A missing field has its default.
-/

namespace TableCodegen.Tree

/-! ## Scalars -/

/-- Reads a text; a loose scalar is one as it stands. -/
def asText (tree : Tree) : Option String :=
  match tree.deref with
  | .text s => some s
  | .loose scalar => some scalar.text
  | _ => none

/-- Reads a truth value. -/
def asBool (tree : Tree) : Option Bool :=
  match tree.deref with
  | .bool b => some b
  | .loose scalar => scalar.bool?
  | _ => none

/-- Reads an integer without a sign; a minus is refused even before a zero. -/
def asNat (tree : Tree) : Option Nat :=
  match tree.deref with
  | .int i => if 0 ≤ i then some i.toNat else none
  | .loose scalar => scalar.nat?
  | _ => none

/-- Reads an integer. -/
def asInt (tree : Tree) : Option Int :=
  match tree.deref with
  | .int i => some i
  | .loose scalar => scalar.int?
  | _ => none

/-- Reads an unsigned integer of sixteen bits. -/
def asUInt16 (tree : Tree) : Option UInt16 :=
  (tree.asNat.filter (· ≤ 65535)).map UInt16.ofNat

/-- Reads an unsigned integer of 32 bits. -/
def asUInt32 (tree : Tree) : Option UInt32 :=
  (tree.asNat.filter (· ≤ 4294967295)).map UInt32.ofNat

/-- Reads a signed integer of 64 bits. -/
def asInt64 (tree : Tree) : Option Int64 :=
  (tree.asInt.filter fun i => -9223372036854775808 ≤ i && i ≤ 9223372036854775807).map Int64.ofInt

/-- Whether the tree is the absent value, where a value may be absent. -/
def isAbsent? (tree : Tree) : Option Bool :=
  match tree.deref with
  | .null => some true
  | .loose scalar => scalar.isAbsent?
  | _ => some false

/-- Reads a value that may be absent. -/
def asOptional {α : Type} (read : Tree → Option α) (tree : Tree) : Option (Option α) := do
  if ← tree.isAbsent? then return none else return some (← read tree)

/-! ## Lists and maps -/

/-- The items of a list; a scalar that is left out is a list without items. -/
def items? (tree : Tree) : Option (List Tree) :=
  match tree.deref with
  | .list items => some items
  | .plainList _ items => some items
  | .loose scalar => if scalar.isLeftOut then some [] else none
  | _ => none

/-- The entries of a map with texts for keys; a scalar that is left out is a map without entries. -/
def entries? (tree : Tree) : Option (List (String × Tree)) :=
  match tree.deref with
  | .map entries => some entries
  | .looseMap _ entries => entries.mapM fun entry => entry.1.asText.map (·, entry.2)
  | .loose scalar => if scalar.isLeftOut then some [] else none
  | _ => none

/-- Reads a list. -/
def asList {α : Type} (read : Tree → Option α) (tree : Tree) : Option (List α) := do
  (← tree.items?).mapM read

/-- The entries of a record with the given fields: those of a map, or the items of a list that is no
    longer than the fields, each under the field in its place. -/
def recordEntries? (fields : List String) (tree : Tree) : Option (List (String × Tree)) :=
  match tree.deref with
  | .list items => if items.length ≤ fields.length then some (fields.zip items) else none
  | tree => tree.entries?

/-- Reads a field of a record from the record's entries. The field has one or more names; it has to occur
    at most once under all of them, and has its default when it does not occur. -/
def field {α : Type} (entries : List (String × Tree)) (names : List String) (default : α)
    (read : Tree → Option α) : Option α :=
  match entries.filter fun entry => names.contains entry.1 with
  | [] => some default
  | [entry] => read entry.2
  | _ => none

end TableCodegen.Tree
