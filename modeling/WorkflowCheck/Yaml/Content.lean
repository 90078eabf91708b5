import WorkflowCheck.Value.Same
import WorkflowCheck.Yaml.Merge
import WorkflowCheck.Yaml.Tagged

/-!
# Contents of nodes

What each node of a graph holds: a scalar its value, and a collection its children, by their names.
Nodes are taken up from the outside in, and collections one after the other in the order in which they
are met, so that of several faults the first one met is told.  A collection is there before its
children are, so it may hold itself; it is no key.  Keys of equal value are one key, which keeps its
first place and takes its last value.
-/

namespace WorkflowCheck.Yaml

/-- What a node holds. -/
inductive Content where
  | leaf (v : Value)
  | items (places : List Nat)
  | fields (entries : Table Key Nat)
  | members (keys : List Key)
  | pairs (entries : List Entry)
  /-- A collection that has been met, and whose children have not. -/
  | pending
  deriving Inhabited

/-- A graph whose nodes are being taken up. -/
structure Filling where
  graph : Graph
  /-- How many steps merging takes at most. -/
  mergeSteps : Nat
  contents : Array (Option Content)
  /-- The collections that have been met, the last one first. -/
  met : List Nat := []

/-- A step of taking up nodes. -/
abbrev Fill := StateT Filling (Except Fault)

namespace Fill

/-- The node of a name. -/
def node (place : Nat) : Fill Node := do
  return (← get).graph.node place

/-- Records what a node holds. -/
def record (place : Nat) (c : Content) : Fill Unit :=
  modify fun s => { s with contents := s.contents.setIfInBounds place (some c) }

/-! ### Scalars -/

/-- The most mappings that the default value of a mapping is looked for in. -/
def defaultDepth : Nat :=
  1000

/-- The text of a scalar, or of the default value of a mapping. -/
def text (g : Graph) : Nat → Nat → Except Fault String
  | 0, _ => .error .tooDeep
  | steps + 1, place =>
    match g.node place with
    | .scalar _ text => .ok text
    | .sequence _ _ => .error .malformed
    | .mapping _ entries =>
      match entries.find? fun (k, _) => (g.node k).tag == .default with
      | some (_, v) => text g steps v
      | none => .error .malformed

/-- The value of a node that is a scalar by its tag.  A moment needs a text of its own.  A NaN that is not
written as such is named after its node, so that it is the same key only where the node is the same. -/
def scalar (place : Nat) : Fill Value := do
  let g := (← get).graph
  let n := g.node place
  match n.tag with
  | .merge | .default | .unknown => throw .malformed
  | tag =>
    let s ← text g defaultDepth place
    match tag, n with
    | .moment, .mapping _ _ => throw .momentOfMapping
    | _, _ => (Tagged.value tag s).map (·.named (place + 1))

/-! ### Nodes -/

/-- Takes up a node, unless it has been.  Of a collection only the fact is recorded that it was met. -/
def take (place : Nat) : Fill Unit := do
  if ((← get).contents.getD place none).isSome then return ()
  if (← node place).tag.isCollection then
    record place .pending
    modify fun s => { s with met := place :: s.met }
  else
    record place (.leaf (← scalar place))

/-- The key that a value is. -/
def key? : Value → Option Key
  | .null => some .null
  | .bool b => some (.bool b)
  | .int i => some (.int i)
  | .float d => some (.float d)
  | .str s => some (.str s)
  | .moment m => some (.moment m)
  | .bytes bs => some (.bytes bs)
  | _ => none

/-- Takes up a node as a key. -/
def takeKey (place : Nat) : Fill Key := do
  take place
  match (← get).contents.getD place none with
  | some (.leaf v) =>
    match key? v with
    | some k => return k
    | none => throw .malformed
  | _ => throw .malformed

/-- Entries with one put in under a key. -/
def putSame (k : Key) (v : Nat) : Table Key Nat → Table Key Nat
  | [] => [(k, v)]
  | (k', v') :: entries => if k'.same k then (k', v) :: entries else (k', v') :: putSame k v entries

/-- Takes up an entry, which is put in behind others. -/
def takeField (done : Table Key Nat) (e : Entry) : Fill (Table Key Nat) := do
  let key ← takeKey e.1
  take e.2
  return putSame key e.2 done

/-- The children of a mapping by their keys. -/
def fields (place : Nat) : Fill (Table Key Nat) := do
  let s ← get
  if (s.graph.entries? place).isNone then throw .malformed
  let g ← s.graph.merge s.mergeSteps [] place
  set { s with graph := g }
  ((g.entries? place).getD []).foldlM takeField []

/-- The entries of a sequence of mappings of one entry each. -/
def pairs (items : List Nat) : Fill (List Entry) :=
  items.mapM fun item => do
    match ← node item with
    | .mapping _ [(k, v)] =>
      take k
      take v
      return (k, v)
    | _ => throw .malformed

/-- What a collection holds, once its children are taken up. -/
def collection (place : Nat) : Fill Content := do
  let n ← node place
  match n.tag, n with
  | .sequence, .sequence _ items =>
    items.forM take
    return .items items
  | .pairs, .sequence _ items => return .pairs (← pairs items)
  | .mapping, _ => return .fields (← fields place)
  | .set, _ => return .members (← fields place).keys
  | _, _ => throw .malformed

/-- Takes up the children of all collections that have been met, and of those that are met then.  Each
round leaves collections that are nested more deeply, so as many rounds as there are nodes are
enough. -/
def rounds : Nat → Fill Unit
  | 0 => return ()
  | steps + 1 => do
    let met := (← get).met.reverse
    if met.isEmpty then return ()
    modify fun s => { s with met := [] }
    met.forM fun place => do record place (← collection place)
    rounds steps

end Fill

/-- What the nodes of a graph hold that its document reaches. -/
def Graph.contents (g : Graph) : Except Fault (Array (Option Content)) := do
  let start : Filling :=
    { graph := g, mergeSteps := g.mergeCount + 1, contents := g.nodes.map fun _ => none }
  let ((), s) ← (do Fill.take g.root; Fill.rounds (g.nodes.size + 1) : Fill Unit).run start
  return s.contents

end WorkflowCheck.Yaml
