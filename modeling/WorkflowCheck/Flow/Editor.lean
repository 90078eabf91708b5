import WorkflowCheck.Flow.Stored

/-!
# The editor view

The stored view together with the state of the canvas: sizes, selection, menus, signals, the way
edges are drawn, and marks of deletion.
-/

namespace WorkflowCheck

open Decode

/-! ### Inputs and outputs -/

/-- An input with its editor state. -/
structure EditorInput extends StoredInput where
  deleted : Bool
  disabled : Bool
  load : LoadState
  deriving Repr

namespace EditorInput

/-- The input that a record describes: a stored one and its marks. -/
def read : Value → Checked EditorInput :=
  record "FullInput" fun v =>
    EditorInput.mk <$> StoredInput.fields v
      <*> withDefault v ⟨"isDeleted", "is_deleted"⟩ truth false
      <*> withDefault v (.same "disabled") truth false
      <*> withDefault v ⟨"_instanceState", "instance_state"⟩ LoadState.read .initial

/-- The input as a record, its marks behind the stored fields. -/
def write (form : Form) (i : EditorInput) : Value :=
  form.record (i.toStoredInput.entries form ++
    [(⟨"isDeleted", "is_deleted"⟩, .bool i.deleted), (.same "disabled", .bool i.disabled),
      (⟨"_instanceState", "instance_state"⟩, i.load.write form)])

end EditorInput

/-- An output with its editor state. -/
structure EditorOutput extends StoredOutput where
  deleted : Bool
  deriving Repr

namespace EditorOutput

/-- The output that a record describes: a stored one and its mark. -/
def read : Value → Checked EditorOutput :=
  record "FullOutput" fun v =>
    EditorOutput.mk <$> StoredOutput.fields v
      <*> withDefault v ⟨"isDeleted", "is_deleted"⟩ truth false

/-- The output as a record, its mark behind the stored fields. -/
def write (form : Form) (o : EditorOutput) : Value :=
  form.record (o.toStoredOutput.entries form ++ [(⟨"isDeleted", "is_deleted"⟩, .bool o.deleted)])

end EditorOutput

/-! ### Edges -/

/-- An edge with the way it is drawn. -/
structure EditorEdge extends StoredEdge where
  style : EdgeStyle
  animated : Bool
  deriving DecidableEq, Repr

namespace EditorEdge

/-- The edge that a record describes: a stored one and how it is drawn. -/
def read : Value → Checked EditorEdge :=
  record "FullEdge" fun v =>
    EditorEdge.mk <$> StoredEdge.fields v
      <*> withDefault v (.same "type") (word EdgeStyle.words) .default
      <*> withDefault v (.same "animated") truth false

/-- The edge as a record, its drawing behind the stored fields. -/
def write (form : Form) (e : EditorEdge) : Value :=
  form.record (e.toStoredEdge.entries ++
    [(.same "type", writeWord EdgeStyle.words e.style), (.same "animated", .bool e.animated)])

end EditorEdge

/-! ### Nodes -/

/-- What a node holds in the editor. -/
structure EditorData extends DataOf EditorInput EditorOutput where
  id : String
  edges : List EditorEdge
  menuItems : List MenuItem
  deepEdit : Bool
  executing : Bool
  stopping : Bool
  signals : List HandleSignal
  deriving Repr

namespace EditorData

/-- No fields and no state. -/
def empty : EditorData :=
  { DataOf.empty with
    id := "", edges := [], menuItems := [], deepEdit := false, executing := false, stopping := false,
    signals := [] }

/-- The data that a record describes; each field may be left out. -/
def read : Value → Checked EditorData :=
  record "FullNodeData" fun v =>
    EditorData.mk <$> DataOf.fields EditorInput.read EditorOutput.read v
      <*> withDefault v (.same "id") text ""
      <*> withDefault v (.same "edges") (list EditorEdge.read) []
      <*> withDefault v ⟨"menuItems", "menu_items"⟩ (list MenuItem.read) []
      <*> withDefault v ⟨"isDeepEdit", "is_deep_edit"⟩ truth false
      <*> withDefault v ⟨"isFlowExecuting", "is_flow_executing"⟩ truth false
      <*> withDefault v ⟨"isStopping", "is_stopping"⟩ truth false
      <*> withDefault v (.same "signals") (list HandleSignal.read) []

/-- The data as a record, the state of the canvas behind the stored fields. -/
def write (form : Form) (d : EditorData) : Value :=
  form.record (DataOf.entries (EditorInput.write form) (EditorOutput.write form) d.toDataOf ++
    [(.same "id", .str d.id), (.same "edges", writeList (EditorEdge.write form) d.edges),
      (⟨"menuItems", "menu_items"⟩, writeList (MenuItem.write form) d.menuItems),
      (⟨"isDeepEdit", "is_deep_edit"⟩, .bool d.deepEdit),
      (⟨"isFlowExecuting", "is_flow_executing"⟩, .bool d.executing),
      (⟨"isStopping", "is_stopping"⟩, .bool d.stopping),
      (.same "signals", writeList (HandleSignal.write form) d.signals)])

end EditorData

/-- A node with its editor state. -/
structure EditorNode extends NodeOf EditorData where
  className : String
  width : Option Double
  height : Option Double
  selected : Bool
  dragging : Bool
  absolutePosition : Option Position
  deriving Repr

namespace EditorNode

/-- The node that a record describes. -/
def read : Value → Checked EditorNode :=
  record "FullNode" fun v =>
    EditorNode.mk <$> NodeOf.fields EditorData.read .empty v
      <*> withDefault v ⟨"className", "class_name"⟩ text ""
      <*> optionalField v (.same "width") number
      <*> optionalField v (.same "height") number
      <*> withDefault v (.same "selected") truth false
      <*> withDefault v (.same "dragging") truth false
      <*> optionalField v ⟨"positionAbsolute", "position_absolute"⟩ Position.read

/-- The node as a record, the state of the canvas behind the stored fields. -/
def write (form : Form) (n : EditorNode) : Value :=
  form.record (NodeOf.entries form (EditorData.write form) n.toNodeOf ++
    [(⟨"className", "class_name"⟩, .str n.className),
      (.same "width", writeOptional Value.float n.width),
      (.same "height", writeOptional Value.float n.height),
      (.same "selected", .bool n.selected), (.same "dragging", .bool n.dragging),
      (⟨"positionAbsolute", "position_absolute"⟩,
        writeOptional (Position.write form) n.absolutePosition)])

end EditorNode

/-! ### Flows -/

/-- A flow as the editor holds it. -/
abbrev EditorFlow := FlowOf EditorNode EditorEdge

/-- The flow in the editor view that a record describes. -/
def EditorFlow.read : Value → Checked EditorFlow :=
  record "FullFlow" (FlowOf.fields EditorNode.read EditorEdge.read)

/-- The flow in the editor view as a record. -/
def EditorFlow.write (form : Form) (f : EditorFlow) : Value :=
  FlowOf.write form (EditorNode.write form) (EditorEdge.write form) f

end WorkflowCheck
