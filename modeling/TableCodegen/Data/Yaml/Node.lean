import TableCodegen.Data.Resolve
import TableCodegen.Data.Yaml.Tag

/-!
# Nodes of YAML documents

A document before its aliases are looked up. An anchor gives a number to its name, and an alias stands
for the node that has the number at the end of the document. The number of a new name is the number of
names before it, so that a name which is used again can share its number with a later one.

Main definitions:

* `Node`: nodes.
* `Anchors`: names, numbers and nodes.
* `Node.toTree`: a node as a document tree.
-/

namespace TableCodegen.Yaml

/-- A node. A collection may be marked with a tag of the document's own. -/
inductive Node where
  | alias (number : Nat)
  | scalar (value : LooseScalar)
  | list (marked : Bool) (items : List Node)
  | map (marked : Bool) (entries : List (Node × Node))
  deriving Inhabited

/-- The scalar that stands for nothing. -/
def emptyNode : Node := .scalar .empty

mutual
/-- The number of events that a node makes: one for a scalar or an alias, two for a collection and those
    of its parts. -/
def Node.eventCount : Node → Nat
  | .alias _ => 1
  | .scalar _ => 1
  | .list _ items => 2 + Node.itemEvents items
  | .map _ entries => 2 + Node.entryEvents entries

/-- The events of the items of a list. -/
def Node.itemEvents : List Node → Nat
  | [] => 0
  | item :: rest => item.eventCount + Node.itemEvents rest

/-- The events of the entries of a map. -/
def Node.entryEvents : List (Node × Node) → Nat
  | [] => 0
  | (key, value) :: rest => key.eventCount + value.eventCount + Node.entryEvents rest
end

/-! ## Anchors -/

/-- The anchors of a document up to some place. -/
structure Anchors where
  /-- The number of each name, last one first. -/
  numbers : List (String × Nat) := []
  /-- How many different names there are. -/
  nameCount : Nat := 0
  /-- The anchor that has a number, last one first; anchors are counted from the start. -/
  holders : List (Nat × Nat) := []
  anchorCount : Nat := 0
  /-- The nodes of the anchors that are complete. -/
  nodes : List (Nat × Node) := []

namespace Anchors

/-- The anchors after one more, and its place among them. -/
def add (anchors : Anchors) (name : String) : Nat × Anchors :=
  let number := anchors.nameCount
  let isNew := (anchors.numbers.lookup name).isNone
  (anchors.anchorCount,
    { anchors with
      numbers := (name, number) :: anchors.numbers
      nameCount := anchors.nameCount + if isNew then 1 else 0
      holders := (number, anchors.anchorCount) :: anchors.holders
      anchorCount := anchors.anchorCount + 1 })

/-- The anchors with the node of one of them. -/
def complete (anchors : Anchors) (place : Nat) (node : Node) : Anchors :=
  { anchors with nodes := (place, node) :: anchors.nodes }

/-- The node that has a number. -/
def node? (anchors : Anchors) (number : Nat) : Option Node :=
  (anchors.holders.lookup number).bind fun place => anchors.nodes.lookup place

end Anchors

/-! ## Trees -/

mutual
/-- A node as a tree, with a tree for each number. -/
def Node.expand (shared : Nat → Tree) : Node → Tree
  | .alias number => shared number
  | .scalar value => .loose value
  | .list marked items => .plainList marked (Node.expandItems shared items)
  | .map marked entries => .looseMap marked (Node.expandEntries shared entries)

/-- The items of a list as trees. -/
def Node.expandItems (shared : Nat → Tree) : List Node → List Tree
  | [] => []
  | item :: rest => item.expand shared :: Node.expandItems shared rest

/-- The entries of a map as trees. -/
def Node.expandEntries (shared : Nat → Tree) : List (Node × Node) → List (Tree × Tree)
  | [] => []
  | (key, value) :: rest =>
    (key.expand shared, value.expand shared) :: Node.expandEntries shared rest
end

/-- A node as a tree in which aliases are followed to some depth; beyond that nobody can read it. -/
def Node.toTree (anchors : Anchors) : Nat → Node → Tree
  | 0, node => node.expand fun _ => .unreadable
  | depth + 1, node => node.expand fun number =>
    match anchors.node? number with
    | some target => .shared fun _ => Node.toTree anchors depth target
    | none => .unreadable

end TableCodegen.Yaml
