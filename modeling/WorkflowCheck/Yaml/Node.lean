import WorkflowCheck.Table
import WorkflowCheck.Yaml.Tag
import WorkflowCheck.Yaml.Token

/-!
# Nodes of YAML

The graph that the tokens of a text stand for: scalars, sequences and mappings with their tags.  Nodes
are named by their places in a table, and a collection names its children.  An alias is the name of the
node of its anchor; so a node may have several parents, and may stand inside itself.  A text holds at
most one document; one that holds none is an empty scalar.
-/

namespace WorkflowCheck.Yaml

/-- A node, which names its children. -/
inductive Node where
  | scalar (tag : Tag) (text : String)
  | sequence (tag : Tag) (items : List Nat)
  | mapping (tag : Tag) (entries : List (Nat × Nat))
  deriving Repr, Inhabited

/-- The tag of a node. -/
def Node.tag : Node → Tag
  | .scalar tag _ => tag
  | .sequence tag _ => tag
  | .mapping tag _ => tag

/-- The node with another tag. -/
def Node.withTag (tag : Tag) : Node → Node
  | .scalar _ text => .scalar tag text
  | .sequence _ items => .sequence tag items
  | .mapping _ entries => .mapping tag entries

/-- A scalar that is not there. -/
def Node.absent : Node :=
  .scalar .null ""

/-- Nodes by their names, and the name of the node of the document. -/
structure Graph where
  nodes : Array Node
  root : Nat

/-! ### Reading tokens -/

/-- What is left to read, and what the tokens so far have defined. -/
structure Source where
  tokens : List Token
  /-- Why there are no more tokens. -/
  fault : Option Fault
  /-- What tag handles stand for. -/
  handles : Table String String := []
  nodes : Array Node := #[]
  /-- The nodes of anchors. -/
  anchors : Table String Nat := []
  /-- How many collections are open. -/
  depth : Nat := 0

/-- A reader of tokens that may fail. -/
abbrev Parse := StateT Source (Except Fault)

namespace Parse

/-- The end of a text that is malformed. -/
def fail {α : Type} : Parse α :=
  throw .malformed

/-- The next token, which stays there. -/
def peek : Parse Token := do
  let s ← get
  match s.tokens, s.fault with
  | t :: _, _ => return t
  | [], none => return .textEnd
  | [], some f => throw f

/-- Passes over the next token. -/
def skip : Parse Unit :=
  modify fun s => { s with tokens := s.tokens.tail }

/-- Passes over a token if it is the next one, and says whether it was. -/
def accept (t : Token) : Parse Bool := do
  if (← peek) = t then
    skip
    return true
  return false

/-- Passes over a token, which must be the next one. -/
def expect (t : Token) : Parse Unit := do
  unless ← accept t do fail

/-- Whether the next token is one of some. -/
def ahead (ts : List Token) : Parse Bool := do
  return ts.contains (← peek)

/-! ### Properties of a node -/

/-- A tag as it is written: a handle and a suffix. -/
abbrev WrittenTag := Option String × String

/-- The name of the tag that a handle and a suffix stand for. -/
def resolveTag : Option WrittenTag → Parse (Option String)
  | none => return none
  | some (none, suffix) => return some suffix
  | some (some handle, suffix) => do
    match (← get).handles.get? handle with
    | some start => return some (start ++ suffix)
    | none => fail

/-- A tag as it is written, if one comes next. -/
def tag? : Parse (Option WrittenTag) := do
  match ← peek with
  | .tag handle suffix =>
    skip
    return some (handle, suffix)
  | _ => return none

/-- The name of an anchor, if one comes next. -/
def anchor? : Parse (Option String) := do
  match ← peek with
  | .anchor name =>
    skip
    return some name
  | _ => return none

/-- An anchor and the name of a tag in either order, each of which may be absent. -/
def properties : Parse (Option String × Option String) := do
  match ← anchor? with
  | some name => return (some name, ← resolveTag (← tag?))
  | none =>
    match ← tag? with
    | some tag =>
      let anchor ← anchor?
      return (anchor, ← resolveTag (some tag))
    | none => return (none, none)

/-! ### Nodes in the table -/

/-- Adds a node, and gives its name. -/
def add (n : Node) : Parse Nat := do
  let place := (← get).nodes.size
  modify fun s => { s with nodes := s.nodes.push n }
  return place

/-- Adds a node with an anchor if need be, and gives its name.  No anchor is given twice. -/
def define (anchor : Option String) (n : Node) : Parse Nat := do
  match anchor with
  | none => add n
  | some a =>
    if ((← get).anchors.get? a).isSome then fail
    let place ← add n
    modify fun s => { s with anchors := s.anchors.put a place }
    return place

/-- How many collections may stand in one another. -/
def maxDepth : Nat :=
  489

/-- Reads what stands in one more collection. -/
def inside {α : Type} (read : Parse α) : Parse α := do
  if maxDepth ≤ (← get).depth then throw .tooDeep
  modify fun s => { s with depth := s.depth + 1 }
  let a ← read
  modify fun s => { s with depth := s.depth - 1 }
  return a

/-- Puts a node in the place of one that was added. -/
def fill (place : Nat) (n : Node) : Parse Nat := do
  modify fun s => { s with nodes := s.nodes.setIfInBounds place n }
  return place

/-- The tag of a node of a name; without one, or with the name of an exclamation mark, that of its
kind. -/
def tagOr (kind : Tag) : Option String → Tag
  | none => kind
  | some name => if name = "!" then kind else .ofName name

/-- The tag of a scalar.  A plain one and one with an exclamation mark are what they look like. -/
def scalarTag (name : Option String) (text : String) (plain : Bool) : Tag :=
  tagOr (if plain || name = some "!" then Look.tagOf text else .text) name

mutual

/-- A node.  In block context it may be a block collection, and as the value of a mapping also a
sequence that is not indented. -/
def node (inBlock unindented : Bool) : Nat → Parse Nat
  | 0 => fail
  | steps + 1 => do
    match ← peek with
    | .alias name =>
      skip
      match (← get).anchors.get? name with
      | some n => return n
      | none => fail
    | _ =>
      let (anchor, name) ← properties
      let next ← peek
      let place ← define anchor Node.absent
      let sequence (items : Parse (List Nat)) : Parse Nat := do
        fill place (.sequence (tagOr .sequence name) (← inside items))
      let mapping (entries : Parse (List (Nat × Nat))) : Parse Nat := do
        fill place (.mapping (tagOr .mapping name) (← inside entries))
      let empty : Parse Nat := do
        if anchor.isSome || name.isSome then fill place (.scalar (scalarTag name "" true) "")
        else fail
      match next with
      | .blockEntry => if unindented then sequence (unindentedItems steps) else empty
      | .scalar text plain =>
        skip
        fill place (.scalar (scalarTag name text plain) text)
      | .flowSequenceStart =>
        skip
        sequence (flowItems true steps)
      | .flowMappingStart =>
        skip
        mapping (flowEntries true steps)
      | .blockSequenceStart =>
        if inBlock then do
          skip
          sequence (blockItems steps)
        else empty
      | .blockMappingStart =>
        if inBlock then do
          skip
          mapping (blockEntries steps)
        else empty
      | _ => empty

/-- A node unless one of some tokens comes next. -/
def nodeUnless (stops : List Token) (inBlock unindented : Bool) : Nat → Parse Nat
  | 0 => fail
  | steps + 1 => do
    if ← ahead stops then return ← add Node.absent
    node inBlock unindented steps

/-- The items of a block sequence up to its end. -/
def blockItems : Nat → Parse (List Nat)
  | 0 => fail
  | steps + 1 => do
    if ← accept .blockEntry then
      let item ← nodeUnless [.blockEntry, .blockEnd] true false steps
      return item :: (← blockItems steps)
    expect .blockEnd
    return []

/-- The items of a sequence that is not indented. -/
def unindentedItems : Nat → Parse (List Nat)
  | 0 => fail
  | steps + 1 => do
    if ← accept .blockEntry then
      let item ← nodeUnless [.blockEntry, .key, .value, .blockEnd] true false steps
      return item :: (← unindentedItems steps)
    return []

/-- The entries of a block mapping up to its end. -/
def blockEntries : Nat → Parse (List (Nat × Nat))
  | 0 => fail
  | steps + 1 => do
    if ← accept .key then
      let k ← nodeUnless [.key, .value, .blockEnd] true true steps
      let v ← blockValue steps
      return (k, v) :: (← blockEntries steps)
    expect .blockEnd
    return []

/-- The value of an entry of a block mapping. -/
def blockValue : Nat → Parse Nat
  | 0 => fail
  | steps + 1 => do
    if ← accept .value then nodeUnless [.key, .value, .blockEnd] true true steps
    else add Node.absent

/-- The items of a flow sequence up to its end.  An item with a key is a mapping of one entry. -/
def flowItems (first : Bool) : Nat → Parse (List Nat)
  | 0 => fail
  | steps + 1 => do
    if ← accept .flowSequenceEnd then return []
    unless first do expect .flowEntry
    if ← accept .flowSequenceEnd then return []
    if ← accept .key then
      let entry ← inside do
        let k ← nodeUnless [.value, .flowEntry, .flowSequenceEnd] false false steps
        return (k, ← flowValue [.flowEntry, .flowSequenceEnd] steps)
      let item ← add (.mapping .mapping [entry])
      return item :: (← flowItems false steps)
    let item ← node false false steps
    return item :: (← flowItems false steps)

/-- The value of an entry of a flow collection. -/
def flowValue (stops : List Token) : Nat → Parse Nat
  | 0 => fail
  | steps + 1 => do
    if ← accept .value then nodeUnless stops false false steps
    else add Node.absent

/-- The entries of a flow mapping up to its end.  An entry without a colon has no value. -/
def flowEntries (first : Bool) : Nat → Parse (List (Nat × Nat))
  | 0 => fail
  | steps + 1 => do
    if ← accept .flowMappingEnd then return []
    unless first do expect .flowEntry
    if ← accept .flowMappingEnd then return []
    if ← accept .key then
      let k ← nodeUnless [.value, .flowEntry, .flowMappingEnd] false false steps
      let v ← flowValue [.flowEntry, .flowMappingEnd] steps
      return (k, v) :: (← flowEntries false steps)
    let k ← node false false steps
    let v ← add Node.absent
    return (k, v) :: (← flowEntries false steps)

end

/-! ### Documents -/

/-- The tag handles that need no directive. -/
def standardHandles : Table String String :=
  [("!", "!"), ("!!", coreSpace)]

/-- Passes over the directives before a document.  There is at most one version, and it is a version
1; no handle is defined twice. -/
def directives (versionSeen : Bool) : Nat → Parse Unit
  | 0 => fail
  | steps + 1 => do
    match ← peek with
    | .versionDirective major =>
      if versionSeen || major ≠ 1 then fail
      skip
      directives true steps
    | .tagDirective handle start =>
      if ((← get).handles.get? handle).isSome then fail
      modify fun s => { s with handles := s.handles.put handle start }
      skip
      directives versionSeen steps
    | .otherDirective =>
      skip
      directives versionSeen steps
    | _ => return ()

/-- Adds the handles that need no directive to those that have one. -/
def addStandardHandles : Parse Unit :=
  modify fun s =>
    { s with handles := standardHandles.foldl (fun t (h, start) => t.putNew h start) s.handles }

/-- Passes over the ends of documents. -/
def documentEnds : Nat → Parse Unit
  | 0 => fail
  | steps + 1 => do
    if ← accept .documentEnd then documentEnds steps

/-- Whether a token is a directive. -/
def isDirective : Token → Bool
  | .versionDirective _ => true
  | .tagDirective _ _ => true
  | .otherDirective => true
  | _ => false

/-- The document of a text.  The first one may start without a marker; an explicit one may be
empty. -/
def document (steps : Nat) : Parse Nat := do
  let first ← peek
  let n ←
    if isDirective first || first = .documentStart then do
      directives false steps
      expect .documentStart
      addStandardHandles
      let next ← peek
      if isDirective next || [.documentStart, .documentEnd, .textEnd].contains next then
        add Node.absent
      else node true false steps
    else if first = .textEnd then add Node.absent
    else do
      addStandardHandles
      node true false steps
  documentEnds steps
  unless (← peek) = .textEnd do
    directives false steps
    let _ ← peek
    fail
  return n

end Parse

/-- The graph that a text stands for, which may be cut off.  Each token starts only a few readings, so a
fixed number of steps for each is enough. -/
def Graph.read (cs : List Char) (cut : Option Fault) : Except Fault Graph := do
  let ⟨tokens, fault⟩ := Token.lex cs cut
  let (root, source) ← (Parse.document (4 * tokens.length + 16)).run { tokens, fault }
  return ⟨source.nodes, root⟩

end WorkflowCheck.Yaml
