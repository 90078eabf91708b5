import WorkflowCheck.Flow.Content
import WorkflowCheck.Flow.Edit

/-!
# Editing sessions

A session holds a flow that is edited and the flows that were saved under names on the way, and tells
whether the flow has changed since.  A coordinate or a bound that is a NaN counts as unchanged as long as
it is the one that was read: every NaN bears the number of the change that brought it in, and no edit
and no change of view takes that away.
-/

namespace WorkflowCheck

/-! ### Names for NaNs -/

/-- The position with a name for coordinates that are NaNs without one. -/
def Position.named (name : Nat) (p : Position) : Position :=
  ⟨p.x.named name, p.y.named name⟩

/-- The input with a name for bounds that are NaNs without one. -/
def StoredInput.named (name : Nat) (i : StoredInput) : StoredInput :=
  { i with min := i.min.map (·.named name), max := i.max.map (·.named name) }

/-- The input with its bounds named. -/
def EditorInput.named (name : Nat) (i : EditorInput) : EditorInput :=
  { i with toStoredInput := i.toStoredInput.named name }

/-- The node with its position and the bounds of its inputs named. -/
def StoredNode.named (name : Nat) (n : StoredNode) : StoredNode :=
  { n with
    position := n.position.named name
    data := n.data.map (·.named name) id }

/-- The node with its position and the bounds of its inputs named. -/
def EditorNode.named (name : Nat) (n : EditorNode) : EditorNode :=
  { n with
    position := n.position.named name
    data := { n.data with toDataOf := n.data.toDataOf.map (·.named name) id } }

/-- The flow with every node named. -/
def Flow.named (name : Nat) : Flow → Flow
  | .stored f => .stored (f.map (StoredNode.named name) id)
  | .editor f => .editor (f.map (EditorNode.named name) id)

/-! ### Sessions -/

/-- A flow that is edited, and the flows saved under names. -/
structure Session where
  current : Flow
  saved : Table String Flow
  /-- How many changes there were; the first flow is one. -/
  changes : Nat
  deriving Repr

namespace Session

/-- The session after a change to a flow. -/
def change (s : Session) (f : Flow) : Session :=
  { s with current := f.named (s.changes + 1), changes := s.changes + 1 }

/-- A session that starts with a flow. -/
def start (f : Flow) : Session :=
  change ⟨f, [], 0⟩ f

/-- The session with its flow saved under a name. -/
def save (s : Session) (slot : String) : Session :=
  { s with saved := s.saved.put slot s.current }

/-- The flow that is saved under a name. -/
def saved? (s : Session) (slot : String) : Option Flow :=
  s.saved.get? slot

/-- Whether the flow is as it was saved under a name, but for editor state. -/
def isAsSaved? (s : Session) (slot : String) : Option Bool :=
  (s.saved? slot).map s.current.sameContent

end Session

end WorkflowCheck
