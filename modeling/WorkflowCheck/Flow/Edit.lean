import WorkflowCheck.Flow.Restore

/-!
# Editing a flow

Single changes to a flow in either view.  A node or an edge that is added is read in the view that
the flow is in.
-/

namespace WorkflowCheck.Flow

open Decode

/-- The flow under another name. -/
def rename (name : String) : Flow → Flow
  | .stored f => .stored { f with name }
  | .editor f => .editor { f with name }

/-- The flow with a node at the end. -/
def addNode (v : Value) : Flow → Checked Flow
  | .stored f => (StoredNode.read v).map fun n => .stored { f with nodes := f.nodes ++ [n] }
  | .editor f => (EditorNode.read v).map fun n => .editor { f with nodes := f.nodes ++ [n] }

/-- The flow without the nodes of an id. -/
def removeNode (id : String) : Flow → Flow
  | .stored f => .stored { f with nodes := f.nodes.filter fun n => n.id != id }
  | .editor f => .editor { f with nodes := f.nodes.filter fun n => n.id != id }

/-- The flow with an edge at the end. -/
def addEdge (v : Value) : Flow → Checked Flow
  | .stored f => (StoredEdge.read v).map fun e => .stored { f with edges := f.edges ++ [e] }
  | .editor f => (EditorEdge.read v).map fun e => .editor { f with edges := f.edges ++ [e] }

/-- The flow without the edges of an id. -/
def removeEdge (id : String) : Flow → Flow
  | .stored f => .stored { f with edges := f.edges.filter fun e => e.id != id }
  | .editor f => .editor { f with edges := f.edges.filter fun e => e.id != id }

/-- The text of the error when nodes cannot be selected. -/
def noSelection : String :=
  "\"EssentialNode\" object has no field \"selected\""

/-- The flow with the nodes of an id selected and no others.  Stored nodes cannot be selected. -/
def select (id : String) : Flow → Except String Flow
  | .stored f => if f.nodes.isEmpty then .ok (.stored f) else .error noSelection
  | .editor f =>
    .ok (.editor { f with nodes := f.nodes.map fun n => { n with selected := n.id == id } })

/-- The flow written and opened again. -/
def reload (f : Flow) : Except RestoreError Flow :=
  (restoreFlow (f.write .wire)).map .editor

end WorkflowCheck.Flow
