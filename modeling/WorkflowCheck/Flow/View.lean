import WorkflowCheck.Flow.Editor

/-!
# From one view to the other

Saving a flow drops its editor state; opening one builds that state anew.  Both can be done to a
flow in either view.  An empty list of options is not kept by saving; sizes, menus and the edges
listed in a node are worked out again by opening, while the marks on inputs, outputs and edges stay
when they are there.
-/

namespace WorkflowCheck

/-! ### Saving -/

/-- The input without an empty list of options. -/
def StoredInput.tidied (i : StoredInput) : StoredInput :=
  { i with choices := i.choices.filter fun cs => !cs.isEmpty }

/-- The node as it is stored. -/
def EditorNode.toStored (n : EditorNode) : StoredNode :=
  n.toNodeOf.map fun d => d.toDataOf.map EditorInput.toStoredInput EditorOutput.toStoredOutput

namespace StoredFlow

/-- The flow with every input tidied. -/
def tidied (f : StoredFlow) : StoredFlow :=
  f.map (fun n => n.map fun d => d.map StoredInput.tidied id) id

end StoredFlow

/-- The flow as it is stored. -/
def EditorFlow.toStored (f : EditorFlow) : StoredFlow :=
  StoredFlow.tidied (f.map EditorNode.toStored EditorEdge.toStoredEdge)

/-! ### Opening -/

/-- The input with no editor state yet. -/
def StoredInput.toEditor (i : StoredInput) : EditorInput :=
  { i with deleted := false, disabled := false, load := .initial }

/-- The output with no editor state yet. -/
def StoredOutput.toEditor (o : StoredOutput) : EditorOutput :=
  { o with deleted := false }

/-- The edge drawn the default way. -/
def StoredEdge.toEditor (e : StoredEdge) : EditorEdge :=
  { e with style := .default, animated := false }

/-- The menu of a node that has just been opened. -/
def openedMenu : List MenuItem :=
  [⟨"duplicate", "Duplicate", none⟩, ⟨"delete", "Delete", some true⟩]

/-- A node is 300 wide and 10 more for each input, at most 500. -/
def openedWidth (d : DataOf EditorInput EditorOutput) : Nat :=
  Nat.min (300 + d.inputs.length * 10) 500

/-- A node is 200 high and 40 more for each input and output. -/
def openedHeight (d : DataOf EditorInput EditorOutput) : Nat :=
  200 + (d.inputs.length + d.outputs.length) * 40

/-- A node opened among the edges of its flow. -/
def openNode (edges : List EditorEdge) (n : NodeOf (DataOf EditorInput EditorOutput)) :
    EditorNode :=
  let data : EditorData :=
    { n.data with
      id := n.id, edges := edges.filter (·.touches n.id), menuItems := openedMenu,
      deepEdit := false, executing := false, stopping := false, signals := [] }
  { n.map fun _ => data with
    className := "", width := some (.ofRatio (openedWidth n.data) 1),
    height := some (.ofRatio (openedHeight n.data) 1), selected := false, dragging := false,
    absolutePosition := none }

/-- A flow opened from its nodes and edges. -/
def openFlow (f : FlowOf (NodeOf (DataOf EditorInput EditorOutput)) EditorEdge) : EditorFlow :=
  f.map (openNode f.edges) id

/-- The flow as the editor shows it after loading. -/
def StoredFlow.toEditor (f : StoredFlow) : EditorFlow :=
  openFlow (f.map (fun n => n.map fun d => d.map StoredInput.toEditor StoredOutput.toEditor)
    StoredEdge.toEditor)

/-- The flow opened anew; only the marks on inputs, outputs and edges are kept. -/
def EditorFlow.reopened (f : EditorFlow) : EditorFlow :=
  openFlow (f.map (fun n => n.toNodeOf.map (·.toDataOf)) id)

/-! ### Either view -/

/-- A flow in one of the two views. -/
inductive Flow where
  | stored (f : StoredFlow)
  | editor (f : EditorFlow)
  deriving Repr

namespace Flow

/-- The flow as it is stored; one that is stored already is tidied. -/
def toStored : Flow → StoredFlow
  | .stored f => f.tidied
  | .editor f => f.toStored

/-- The flow as the editor shows it after loading. -/
def toEditor : Flow → EditorFlow
  | .stored f => f.toEditor
  | .editor f => f.reopened

/-- The flow as a record of its own view. -/
def write (form : Decode.Form) : Flow → Value
  | .stored f => f.write form
  | .editor f => f.write form

/-- What the flow is linted and compared as: the stored view, on the wire. -/
def storedWire : Flow → Value
  | .stored f => f.write .wire
  | .editor f => f.toStored.write .wire

/-- The nodes, without what they hold. -/
def nodes : Flow → List (NodeOf Unit)
  | .stored f => f.nodes.map fun n => n.map fun _ => ()
  | .editor f => f.nodes.map fun n => n.toNodeOf.map fun _ => ()

/-- The edges, without the way they are drawn. -/
def edges : Flow → List StoredEdge
  | .stored f => f.edges
  | .editor f => f.edges.map (·.toStoredEdge)

/-- The name of the flow. -/
def name : Flow → String
  | .stored f => f.name
  | .editor f => f.name

end Flow

end WorkflowCheck
