import TableCodegen.Data.Yaml.Lexer
import TableCodegen.Data.Yaml.Node

/-!
# YAML documents

A stream of one document as a document tree. Scalars are loose: the format does not say what they stand
for. An anchor names a node, and an alias stands for the node of that name before it.

Main definitions:

* `readNode?`: the node at the start of some tokens.
* `parse?`: the document of a stream.
-/

namespace TableCodegen.Yaml

/-- What nodes refer to. -/
structure Scope where
  handles : Handles := .standard
  anchors : Anchors := {}

/-- A part of a document, the tokens after it, and what is referred to after it. -/
abbrev Part (α : Type) := α × List Token × Scope

/-- The properties of a node. -/
structure Properties where
  anchor? : Option String := none
  tag? : Option (String × List UInt8) := none

/-- The anchor and the tag before a node, in either order and each at most once. -/
def readProperties : List Token → Properties × List Token
  | .anchor name :: .tag handle bytes :: rest => (⟨some name, some (handle, bytes)⟩, rest)
  | .tag handle bytes :: .anchor name :: rest => (⟨some name, some (handle, bytes)⟩, rest)
  | .anchor name :: rest => (⟨some name, none⟩, rest)
  | .tag handle bytes :: rest => (⟨none, some (handle, bytes)⟩, rest)
  | rest => ({}, rest)

/-- A scalar with the name of its tag. -/
def scalarNode (style : LooseStyle) (text : String) (tagName? : Option (List UInt8)) : Node :=
  .scalar { text, style, tag := (tagName?.map looseTag).getD .absent }

/-- A token after which a block node is empty. -/
def endsBlockNode : Token → Bool
  | .key | .value | .blockEnd => true
  | _ => false

/-- A token after which a node between brackets is empty. -/
def endsFlowNode : Token → Bool
  | .value | .flowEntry | .flowListEnd | .flowMapEnd => true
  | _ => false

/-- Where a node stands. -/
inductive Place where
  /-- In a block collection or at the root; `indentless` lists may start at the column of their key. -/
  | block (indentless : Bool)
  | flow
  deriving Repr, DecidableEq

mutual
/-- The node at the start of some tokens; `fuel` bounds the steps. -/
def readNode? : Nat → Place → Scope → List Token → Option (Part Node)
  | 0, _, _, _ => none
  | fuel + 1, place, scope, tokens =>
    match tokens with
    | .alias name :: rest => (scope.anchors.numbers.lookup name).map (.alias ·, rest, scope)
    | _ => do
      let (properties, rest) := readProperties tokens
      let tagName? ← match properties.tag? with
        | none => some none
        | some (handle, bytes) => (scope.handles.resolve? handle bytes).map some
      match properties.anchor? with
      | none => readContent? fuel place false tagName? scope rest
      | some name => do
        let (position, anchors) := scope.anchors.add name
        let (node, rest, scope) ←
          readContent? fuel place true tagName? { scope with anchors := anchors } rest
        return (node, rest, { scope with anchors := scope.anchors.complete position node })

/-- The node after its properties; `named` says that it has an anchor. -/
def readContent? : Nat → Place → Bool → Option (List UInt8) → Scope → List Token → Option (Part Node)
  | 0, _, _, _, _, _ => none
  | fuel + 1, place, named, tagName?, scope, tokens =>
    let isMarked := tagName?.any isOwnName
    let wrapList (part? : Option (Part (List Node))) : Option (Part Node) :=
      part?.map fun e => (.list isMarked e.1, e.2)
    let wrapMap (part? : Option (Part (List (Node × Node)))) : Option (Part Node) :=
      part?.map fun e => (.map isMarked e.1, e.2)
    match tokens, place with
    | .scalar style text :: rest, _ => some (scalarNode style text tagName?, rest, scope)
    | .blockEntry :: _, .block true => wrapList (readItems? fuel true scope tokens)
    | .flowListStart :: rest, _ => wrapList (readFlowItems? fuel true scope rest)
    | .flowMapStart :: rest, _ => wrapMap (readFlowEntries? fuel true scope rest)
    | .blockListStart :: rest, .block _ => wrapList (readItems? fuel false scope rest)
    | .blockMapStart :: rest, .block _ => wrapMap (readEntries? fuel scope rest)
    | _, _ =>
      if named || tagName?.isSome then some (scalarNode .plain "" tagName?, tokens, scope) else none

/-- The items of a block list, and the tokens after it; a list at the column of its key has no token of
    its own at its end. -/
def readItems? : Nat → Bool → Scope → List Token → Option (Part (List Node))
  | 0, _, _, _ => none
  | fuel + 1, indentless, scope, tokens =>
    match tokens with
    | .blockEntry :: rest => do
      let isEmpty := match rest with
        | .blockEntry :: _ => true
        | .blockEnd :: _ => true
        | token :: _ => indentless && endsBlockNode token
        | [] => false
      let (item, rest, scope) ←
        if isEmpty then some (emptyNode, rest, scope)
        else readNode? fuel (.block false) scope rest
      let (items, rest, scope) ← readItems? fuel indentless scope rest
      return (item :: items, rest, scope)
    | .blockEnd :: rest => some ([], if indentless then tokens else rest, scope)
    | _ => if indentless then some ([], tokens, scope) else none

/-- The entries of a block map, and the tokens after it. -/
def readEntries? : Nat → Scope → List Token → Option (Part (List (Node × Node)))
  | 0, _, _ => none
  | fuel + 1, scope, tokens =>
    match tokens with
    | .blockEnd :: rest => some ([], rest, scope)
    | .key :: rest => do
      let (key, rest, scope) ← readBlockPart? fuel scope rest
      let (value, rest, scope) ← match rest with
        | .value :: rest => readBlockPart? fuel scope rest
        | _ => some (emptyNode, rest, scope)
      let (entries, rest, scope) ← readEntries? fuel scope rest
      return ((key, value) :: entries, rest, scope)
    | _ => none

/-- A key or a value of a block map, which may be empty. -/
def readBlockPart? : Nat → Scope → List Token → Option (Part Node)
  | 0, _, _ => none
  | fuel + 1, scope, tokens =>
    if tokens.head?.any endsBlockNode then some (emptyNode, tokens, scope)
    else readNode? fuel (.block true) scope tokens

/-- The items of a list between brackets, and the tokens after it; `first` says that no item was read
    yet. An item with a colon is a map of one entry. The token that shows its key to be empty is taken
    together with the key. -/
def readFlowItems? : Nat → Bool → Scope → List Token → Option (Part (List Node))
  | 0, _, _, _ => none
  | fuel + 1, first, scope, tokens =>
    match tokens with
    | .flowListEnd :: rest => some ([], rest, scope)
    | _ => do
      let tokens ← if first then some tokens else match tokens with
        | .flowEntry :: rest => some rest
        | _ => none
      match tokens with
      | .flowListEnd :: rest => return ([], rest, scope)
      | .key :: rest => do
        let (key, rest, scope) ← match rest with
          | .value :: rest | .flowEntry :: rest | .flowListEnd :: rest => some (emptyNode, rest, scope)
          | _ => readNode? fuel .flow scope rest
        let (value, rest, scope) ← readFlowValue? fuel scope rest
        let (items, rest, scope) ← readFlowItems? fuel false scope rest
        return (.map false [(key, value)] :: items, rest, scope)
      | _ => do
        let (item, rest, scope) ← readNode? fuel .flow scope tokens
        let (items, rest, scope) ← readFlowItems? fuel false scope rest
        return (item :: items, rest, scope)

/-- The entries of a map between brackets, and the tokens after it; `first` says that no entry was read
    yet. -/
def readFlowEntries? : Nat → Bool → Scope → List Token → Option (Part (List (Node × Node)))
  | 0, _, _, _ => none
  | fuel + 1, first, scope, tokens =>
    match tokens with
    | .flowMapEnd :: rest => some ([], rest, scope)
    | _ => do
      let tokens ← if first then some tokens else match tokens with
        | .flowEntry :: rest => some rest
        | _ => none
      match tokens with
      | .flowMapEnd :: rest => return ([], rest, scope)
      | .key :: rest => do
        let (key, rest, scope) ← readFlowPart? fuel scope rest
        let (value, rest, scope) ← readFlowValue? fuel scope rest
        let (entries, rest, scope) ← readFlowEntries? fuel false scope rest
        return ((key, value) :: entries, rest, scope)
      | _ => do
        let (key, rest, scope) ← readNode? fuel .flow scope tokens
        let (entries, rest, scope) ← readFlowEntries? fuel false scope rest
        return ((key, emptyNode) :: entries, rest, scope)

/-- A key or a value between brackets, which may be empty. -/
def readFlowPart? : Nat → Scope → List Token → Option (Part Node)
  | 0, _, _ => none
  | fuel + 1, scope, tokens =>
    if tokens.head?.any endsFlowNode then some (emptyNode, tokens, scope)
    else readNode? fuel .flow scope tokens

/-- The value after a key between brackets; without a colon it is empty. -/
def readFlowValue? : Nat → Scope → List Token → Option (Part Node)
  | 0, _, _ => none
  | fuel + 1, scope, tokens =>
    match tokens with
    | .value :: rest => readFlowPart? fuel scope rest
    | _ => some (emptyNode, tokens, scope)
end

/-! ## Documents -/

/-- The version is one that a document may ask for. -/
def isKnownVersion (major minor : Nat) : Bool :=
  major = 1 && (minor = 1 || minor = 2)

/-- The handles of the directives before a document, in front of those given, and the tokens after them;
    a version may be given once, and each handle once. -/
def readDirectives? : Bool → Handles → List Token → Option (Handles × List Token)
  | versioned, handles, .versionDirective major minor :: rest =>
    if versioned || !isKnownVersion major minor then none else readDirectives? true handles rest
  | versioned, handles, .tagDirective handle bytes :: rest =>
    if (handles.lookup handle).isSome then none
    else readDirectives? versioned ((handle, bytes) :: handles) rest
  | _, handles, tokens => some (handles, tokens)

/-- The content of a document, and the tokens after it. -/
def readDocument? (handles : Handles) (tokens : List Token) : Option (Part Node) :=
  let scope : Scope := { handles := handles ++ .standard }
  match tokens with
  | .documentStart :: rest =>
    match rest with
    | .versionDirective .. :: _ | .tagDirective .. :: _ | .documentStart :: _ | .documentEnd :: _
    | .streamEnd :: _ => some (emptyNode, rest, scope)
    | _ => readNode? (4 * rest.length + 4) (.block false) scope rest
  | _ => readNode? (4 * tokens.length + 4) (.block false) scope tokens

/-- The tokens that follow a document without its end marks. -/
def skipEnds : List Token → List Token
  | .documentEnd :: rest => skipEnds rest
  | tokens => tokens

/-- The greatest number of lists and maps around a value that is read through. -/
def maxDepth : Nat := 128

/-- A document within its limits: every event admits a hundred look-ups. -/
def Node.toLimitedTree (anchors : Anchors) (node : Node) : LimitedTree :=
  ⟨node.toTree anchors maxDepth, { depth := maxDepth - 1, lookups := 100 * node.eventCount }⟩

/-- The document of a stream that has exactly one; an empty stream is an empty document. -/
def parse? (text : String) : Option LimitedTree := do
  let tokens ← tokens? text
  if tokens = [.streamEnd] then return emptyNode.toLimitedTree {}
  let (handles, start) ← readDirectives? false [] tokens
  if start.length ≠ tokens.length && start.head? ≠ some .documentStart then none
  let (node, rest, scope) ← readDocument? handles start
  if skipEnds rest = [.streamEnd] then some (node.toLimitedTree scope.anchors) else none

end TableCodegen.Yaml
