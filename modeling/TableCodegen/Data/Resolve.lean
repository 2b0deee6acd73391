import TableCodegen.Data.Loose

/-!
# Resolved trees

A map that holds the fields of several records is read through before anybody says what its values are.
What is read through is resolved: loose scalars get a type, shared trees are looked up, and there is
nothing in it that cannot be read. Formats limit how deep it may nest and how often a shared tree may be
looked up.

Main definitions:

* `Limits`, `LimitedTree`: the limits of a format, and a document that is read within them.
* `Tree.resolve?`, `Tree.resolveEntries?`: resolution.
-/

namespace TableCodegen

/-- How much of a document may be read through. -/
structure Limits where
  /-- The lists and maps around a value. -/
  depth : Nat := 126
  /-- The look-ups of shared trees. -/
  lookups : Nat := 0
  deriving Repr, DecidableEq, Inhabited

/-- A document as it is read. -/
structure LimitedTree where
  tree : Tree
  limits : Limits := {}

/-- A collection one level down, if there is one. -/
def inside? {α : Type} (depth : Nat) (read : Nat → Option α) : Option α :=
  match depth with
  | 0 => none
  | depth + 1 => read depth

mutual
/-- The tree with every loose scalar resolved and every shared tree looked up, and the number of look-ups
    that are left. -/
def Tree.resolve? (depth lookups : Nat) : Tree → Option (Tree × Nat)
  | .int i => if fitsWord i then some (.int i, lookups) else none
  | .loose scalar =>
    match scalar.value? with
    | some (.int i) => if fitsWord i then some (.int i, lookups) else none
    | value? => value?.map (·, lookups)
  | .list items =>
    inside? depth fun depth => do
      let (items, lookups) ← Tree.resolveItems? depth lookups items
      return (.list items, lookups)
  | .plainList marked items =>
    if marked then none
    else inside? depth fun depth => do
      let (items, lookups) ← Tree.resolveItems? depth lookups items
      return (.list items, lookups)
  | .map entries =>
    inside? depth fun depth => do
      let (entries, lookups) ← Tree.resolveEntriesAt? depth lookups entries
      return (.map entries, lookups)
  | .looseMap marked entries =>
    if marked then none
    else inside? depth fun depth => do
      let (entries, lookups) ← Tree.resolvePairs? depth lookups entries
      return (.looseMap false entries, lookups)
  | .shared node =>
    match lookups with
    | 0 => none
    | lookups + 1 => Tree.resolve? depth lookups (node ())
  | .unreadable => none
  | tree => some (tree, lookups)

/-- Resolution of the items of a list. -/
def Tree.resolveItems? (depth lookups : Nat) : List Tree → Option (List Tree × Nat)
  | [] => some ([], lookups)
  | item :: rest => do
    let (item, lookups) ← Tree.resolve? depth lookups item
    let (rest, lookups) ← Tree.resolveItems? depth lookups rest
    return (item :: rest, lookups)

/-- Resolution of the values of a map. -/
def Tree.resolveEntriesAt? (depth lookups : Nat) :
    List (String × Tree) → Option (List (String × Tree) × Nat)
  | [] => some ([], lookups)
  | (key, value) :: rest => do
    let (value, lookups) ← Tree.resolve? depth lookups value
    let (rest, lookups) ← Tree.resolveEntriesAt? depth lookups rest
    return ((key, value) :: rest, lookups)

/-- Resolution of the keys and values of a loose map. -/
def Tree.resolvePairs? (depth lookups : Nat) :
    List (Tree × Tree) → Option (List (Tree × Tree) × Nat)
  | [] => some ([], lookups)
  | (key, value) :: rest => do
    let (key, lookups) ← Tree.resolve? depth lookups key
    let (value, lookups) ← Tree.resolve? depth lookups value
    let (rest, lookups) ← Tree.resolvePairs? depth lookups rest
    return ((key, value) :: rest, lookups)
end

/-- The entries of a map with their values resolved within some limits. -/
def Tree.resolveEntries? (limits : Limits) (entries : List (String × Tree)) :
    Option (List (String × Tree)) :=
  (Tree.resolveEntriesAt? limits.depth limits.lookups entries).map (·.1)

end TableCodegen
