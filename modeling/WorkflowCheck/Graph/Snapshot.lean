import WorkflowCheck.Flow.Id
import WorkflowCheck.Value.Basic

/-!
# Snapshots

The nodes and edges of a raw flow, read once and leniently: whatever is missing or of the wrong kind
is left open, and the rules say what is wrong with it.  A snapshot also holds two indexes, the first
node of each id and the fields that edges lead into.
-/

namespace WorkflowCheck

namespace Value

/-- Whether the value is a number; a truth value is none. -/
def isNumber : Value → Bool
  | .int _ => true
  | .float _ => true
  | _ => false

/-- The nearest double of a number, if it is not past the largest one. -/
def toDouble? : Value → Option Double
  | .int i => Double.ofInt? i
  | .float d => some d
  | _ => none

end Value

/-! ### Places -/

/-- Where a raw position puts a node. -/
inductive Place where
  /-- Not two numbers. -/
  | unknown
  /-- Two numbers, of which one is an integer past the largest double. -/
  | oversized
  | located (x y : Double)
  deriving DecidableEq, Repr

namespace Place

/-- The place that a raw position names. -/
def ofPosition (position : Value) : Place :=
  let x := position.field "x"
  let y := position.field "y"
  if x.isNumber && y.isNumber then
    match x.toDouble?, y.toDouble? with
    | some a, some b => .located a b
    | _, _ => .oversized
  else .unknown

/-- The two coordinates. -/
def coordinates? : Place → Option (Double × Double)
  | .located x y => some (x, y)
  | _ => none

end Place

/-! ### Nodes and edges -/

/-- An input as it was submitted. -/
structure RawInput where
  index : Nat
  id : Option String
  value : Value
  deriving Repr

/-- An output as it was submitted. -/
structure RawOutput where
  index : Nat
  id : Option String
  /-- The mark of deletion, if there is any. -/
  deleted : Option Value
  deriving Repr

/-- Where a node keeps its fields. -/
inductive NodeShape where
  /-- At the top. -/
  | flat
  /-- In its data. -/
  | nested
  deriving DecidableEq, Repr

/-- A node as it was submitted. -/
structure RawNode where
  index : Nat
  id : Option String
  type : Value
  position : Value
  shape : NodeShape
  inputs : List RawInput
  outputs : List RawOutput
  /-- The version, if there is any. -/
  version : Option Value
  deriving Repr

/-- An edge as it was submitted. -/
structure RawEdge where
  index : Nat
  id : Option String
  source : Option String
  sourceHandle : Option String
  target : Option String
  targetHandle : Option String
  deriving DecidableEq, Repr

namespace RawInput

/-- The input at a place of its list; an id that is no filled text counts as none. -/
def ofValue (index : Nat) (v : Value) : RawInput :=
  ⟨index, (v.field "id").filledText?, v.field "value"⟩

end RawInput

namespace RawOutput

/-- The output at a place of its list; an id that is no filled text counts as none. -/
def ofValue (index : Nat) (v : Value) : RawOutput :=
  ⟨index, (v.field "id").filledText?, v.get? "isDeleted"⟩

end RawOutput

/-- A list of values read one by one, each with its place. -/
def readIndexed {α : Type} (read : Nat → Value → α) (vs : List Value) : List α :=
  vs.mapIdx read

namespace RawNode

/-- A node that has fields at the top keeps them there; otherwise the fields of its data count. -/
def shapeOf (v : Value) : NodeShape :=
  let data := v.field "data"
  if v.has "inputs" || v.has "outputs" then .flat
  else if data.has "inputs" || data.has "outputs" then .nested
  else .flat

/-- What holds the fields of a node. -/
def holder (v : Value) : Value :=
  match shapeOf v with
  | .flat => v
  | .nested => v.field "data"

/-- The node at a place of its list, with its fields from where they are held. -/
def ofValue (index : Nat) (v : Value) : RawNode where
  index := index
  id := (v.field "id").filledText?
  type := v.field "type"
  position := v.field "position"
  shape := shapeOf v
  inputs := readIndexed RawInput.ofValue ((holder v).field "inputs").items
  outputs := readIndexed RawOutput.ofValue ((holder v).field "outputs").items
  version := v.get? "version"

/-- The ids of the inputs that have one. -/
def inputIds (n : RawNode) : List String :=
  n.inputs.filterMap (·.id)

/-- The ids of the outputs that have one. -/
def outputIds (n : RawNode) : List String :=
  n.outputs.filterMap (·.id)

/-- The first input with an id. -/
def findInput? (n : RawNode) (id : String) : Option RawInput :=
  n.inputs.find? fun i => i.id == some id

/-- Where the node is. -/
def place (n : RawNode) : Place :=
  .ofPosition n.position

/-- The coordinates of the node. -/
def coordinates? (n : RawNode) : Option (Double × Double) :=
  n.place.coordinates?

end RawNode

namespace RawEdge

/-- The edge at a place of its list; an end that is no filled text counts as none. -/
def ofValue (index : Nat) (v : Value) : RawEdge where
  index := index
  id := (v.field "id").filledText?
  source := (v.field "source").filledText?
  sourceHandle := (v.field "sourceHandle").filledText?
  target := (v.field "target").filledText?
  targetHandle := (v.field "targetHandle").filledText?

/-- The output that the edge leaves from. -/
def sourceField (e : RawEdge) : Option String :=
  e.sourceHandle.map fieldOfHandle

/-- The input that the edge leads into. -/
def targetField (e : RawEdge) : Option String :=
  e.targetHandle.map fieldOfHandle

end RawEdge

/-! ### Snapshots -/

/-- What was submitted, and how to look it up. -/
structure Snapshot where
  nodes : List RawNode
  edges : List RawEdge
  /-- The first node of each id. -/
  nodeMap : Table String RawNode
  /-- The fields that edges lead into, by the id of their node and in the order of the edges. -/
  inbound : Table String (List String)
  deriving Repr

namespace Snapshot

/-- The index of nodes with one more node. -/
def indexNode (map : Table String RawNode) (n : RawNode) : Table String RawNode :=
  match n.id with
  | some id => map.putNew id n
  | none => map

/-- The index of inbound fields with one more edge. -/
def indexEdge (map : Table String (List String)) (e : RawEdge) : Table String (List String) :=
  match e.target, e.targetField with
  | some target, some field => map.push target field
  | _, _ => map

/-- The snapshot of raw nodes and edges. -/
def ofValues (nodes edges : List Value) : Snapshot :=
  let nodes := readIndexed RawNode.ofValue nodes
  let edges := readIndexed RawEdge.ofValue edges
  ⟨nodes, edges, nodes.foldl indexNode [], edges.foldl indexEdge []⟩

/-- The fields of a node that edges lead into. -/
def inboundFields (s : Snapshot) (id : String) : List String :=
  (s.inbound.get? id).getD []

/-- The first node of an id. -/
def node? (s : Snapshot) (id : String) : Option RawNode :=
  s.nodeMap.get? id

end Snapshot

end WorkflowCheck
