import TableCodegen.Data.Tree

/-!
# TOML tables

A TOML document defines its tables piece by piece. Each table remembers how it came about, because that
decides what may still be added to it: a table with a header of its own has no second one, and a table
that dotted keys made is only extended by dotted keys.

Main definitions:

* `Origin`, `Item`, `Entries`: tables under construction.
* `assign?`, `openTable?`, `openElement?`: a key with a value, a table header, and the header of an
  element of a list of tables.
* `Entries.toTree`: the finished document.
-/

namespace TableCodegen.Toml

/-- How a table came about. -/
inductive Origin where
  /-- By the header of a table below it. -/
  | implicit
  /-- By a header of its own. -/
  | header
  /-- By a dotted key. -/
  | dotted
  deriving Repr, DecidableEq

/-- What a key stands for. -/
inductive Item where
  /-- A value that nothing can be added to. -/
  | value (tree : Tree)
  | table (origin : Origin) (entries : List (String × Item))
  /-- A list of tables, last one first. -/
  | tables (elements : List (List (String × Item)))

/-- The entries of a table. -/
abbrev Entries := List (String × Item)

/-- The entries with the item of a key replaced, or added at the end. -/
def Entries.set (entries : Entries) (key : String) (item : Item) : Entries :=
  match entries with
  | [] => [(key, item)]
  | (k, old) :: rest => if k = key then (key, item) :: rest else (k, old) :: Entries.set rest key item

/-- The entries with one more key, which must be new. -/
def Entries.add? (entries : Entries) (key : String) (item : Item) : Option Entries :=
  if (entries.lookup key).isSome then none else some (entries ++ [(key, item)])

/-- Changes the table at a path below a table with the given origin and entries. Missing tables are made
    on the way. The last element of a list of tables stands for the list. A dotted path does not pass
    through a table that has a header. -/
def changeAt? (isDotted : Bool) (change : Origin → Entries → Option Entries) :
    List String → Origin → Entries → Option Entries
  | [], origin, entries => change origin entries
  | key :: rest, _, entries =>
    match entries.lookup key with
    | none => do
      let fresh := if isDotted then Origin.dotted else .implicit
      return Entries.set entries key (.table fresh (← changeAt? isDotted change rest fresh []))
    | some (.table origin inner) =>
      if isDotted && origin = .header then none
      else do
        return Entries.set entries key (.table origin (← changeAt? isDotted change rest origin inner))
    | some (.tables (last :: before)) => do
      let last ← changeAt? isDotted change rest .header last
      return Entries.set entries key (.tables (last :: before))
    | _ => none

/-- Gives a key of a table a value. The key must be new, and of the tables on a dotted path the last one
    must have been made by dotted keys. -/
def assign? (key : List String) (value : Tree) (origin : Origin) (entries : Entries) :
    Option Entries := do
  let last ← key.getLast?
  let path := key.dropLast
  changeAt? true (fun origin entries =>
    if !path.isEmpty && origin ≠ .dotted then none
    else Entries.add? entries last (.value value)) path origin entries

/-- Opens the table of a header in the document. It must be new, or known only by the headers of tables
    below it. -/
def openTable? (key : List String) (root : Entries) : Option Entries := do
  let last ← key.getLast?
  changeAt? false (fun _ entries =>
    match entries.lookup last with
    | none => Entries.add? entries last (.table .header [])
    | some (.table .implicit inner) => some (Entries.set entries last (.table .header inner))
    | _ => none) key.dropLast .header root

/-- Opens one more element of the list of tables of a header in the document. -/
def openElement? (key : List String) (root : Entries) : Option Entries := do
  let last ← key.getLast?
  changeAt? false (fun _ entries =>
    match entries.lookup last with
    | none => Entries.add? entries last (.tables [[]])
    | some (.tables elements) => some (Entries.set entries last (.tables ([] :: elements)))
    | _ => none) key.dropLast .header root

mutual
/-- An item as a tree. -/
def Item.toTree : Item → Tree
  | .value tree => tree
  | .table _ entries => .map (treeEntries entries)
  | .tables elements => .list (treeElements elements).reverse

/-- Entries with their values as trees. -/
def treeEntries : List (String × Item) → List (String × Tree)
  | [] => []
  | (key, item) :: rest => (key, item.toTree) :: treeEntries rest

/-- Elements of a list of tables as trees. -/
def treeElements : List (List (String × Item)) → List Tree
  | [] => []
  | entries :: rest => .map (treeEntries entries) :: treeElements rest
end

/-- A document as a tree. -/
def Entries.toTree (entries : Entries) : Tree :=
  .map (treeEntries entries)

end TableCodegen.Toml
