/-!
# Document trees

The value of a settings file or a catalog file, whatever format it was written in. Most scalars say what
they are. A loose scalar does not: the format gives its text, and the reader of the value decides what
the text stands for. Collections can be loose too: a plain list is one that cannot be read as a record,
and a loose map has trees for keys.

Main definitions:

* `LooseScalar`: scalars whose type the reader decides.
* `Tree`: document trees.
* `Tree.deref`: the tree that a shared one stands for.
-/

namespace TableCodegen

/-- How a loose scalar is written. -/
inductive LooseStyle where
  | plain
  /-- As a block of lines that stand for themselves. -/
  | literal
  /-- In any other way that shows a text, such as quotes. -/
  | quoted
  deriving Repr, DecidableEq, Inhabited

/-- What the tag of a loose scalar says about its type. -/
inductive LooseTag where
  | absent
  | null
  | bool
  | int
  | real
  /-- A type of the document's own. -/
  | own
  /-- Any other type; a text. -/
  | other
  deriving Repr, DecidableEq, Inhabited

/-- A scalar of a format that does not tell texts from other scalars. -/
structure LooseScalar where
  text : String
  style : LooseStyle := .plain
  tag : LooseTag := .absent
  deriving Repr, DecidableEq, Inhabited

/-- A document tree. The entries of a map keep their order and may repeat a key. -/
inductive Tree where
  | null
  | bool (b : Bool)
  | int (i : Int)
  /-- A number that is no integer, as it was written. -/
  | real (text : String)
  | text (s : String)
  | loose (scalar : LooseScalar)
  /-- A list, or the values of a record in the order of its fields. -/
  | list (items : List Tree)
  /-- A list of a format in which no record is written as a list; it may be marked with a type of the
      document's own. -/
  | plainList (marked : Bool) (items : List Tree)
  | map (entries : List (String × Tree))
  /-- A map of a format in which keys are trees; it may be marked with a type of the document's own. -/
  | looseMap (marked : Bool) (entries : List (Tree × Tree))
  /-- A tree that stands somewhere else in the document and is looked up when it is read. -/
  | shared (node : Unit → Tree)
  /-- What may stand in a document only where nobody reads it. -/
  | unreadable
  deriving Inhabited

/-- The tree that a shared one stands for. -/
def Tree.deref : Tree → Tree
  | .shared node => (node ()).deref
  | tree => tree

end TableCodegen
