import WorkflowCheck.Flow.View

/-!
# Conversion by way of records

How one view is made from the other without trusting the parts that are handed over: every input, output
and edge is written in full and read again in the other view, and the id and the type of every node are
looked at once more.  A part that does not pass ends the conversion with its problems.
-/

namespace WorkflowCheck

open Decode

/-! ### Shapes -/

/-- The data with every input and every output converted. -/
def DataOf.convert {ι ο ι' ο' : Type} (f : ι → Checked ι') (g : ο → Checked ο') (d : DataOf ι ο) :
    Checked (DataOf ι' ο') :=
  (Checked.each f d.inputs).andThen fun inputs =>
    (Checked.each g d.outputs).andThen fun outputs => .valid { d with inputs, outputs }

/-- The node with its data converted; its id and its type must not be empty. -/
def NodeOf.convert {δ δ' : Type} (f : δ → Checked δ') (n : NodeOf δ) : Checked (NodeOf δ') :=
  (f n.data).andThen fun data =>
    NodeOf.mk <$> filledText (.str n.id) <*> filledText (.str n.type) <*> .valid n.position
      <*> .valid n.version <*> .valid data

/-! ### Saving -/

/-- The record of an input that is saved: in full, but without a list of options that is absent or
empty. -/
def StoredInput.savedRecord (i : StoredInput) : Value :=
  Form.full.record ((i.entries .full).filter fun (n, x) => !(n == .same "options" && x.isEmpty))

/-- The input read from the record that it is saved as. -/
def StoredInput.saveByRecord (i : StoredInput) : Checked StoredInput :=
  StoredInput.read i.savedRecord

/-- The output read from its record. -/
def StoredOutput.saveByRecord (o : StoredOutput) : Checked StoredOutput :=
  StoredOutput.read (o.write .full)

/-- The edge read from its record. -/
def StoredEdge.saveByRecord (e : StoredEdge) : Checked StoredEdge :=
  StoredEdge.read (e.write .full)

/-- The flow saved part by part, its nodes before its edges. -/
def StoredFlow.saveByRecords (f : StoredFlow) : Checked StoredFlow :=
  (Checked.each (NodeOf.convert (DataOf.convert StoredInput.saveByRecord StoredOutput.saveByRecord))
      f.nodes).andThen fun nodes =>
    (Checked.each StoredEdge.saveByRecord f.edges).andThen fun edges =>
      .valid { f with nodes, edges }

/-! ### Opening -/

/-- The input read for the editor from its record. -/
def StoredInput.openByRecord (i : StoredInput) : Checked EditorInput :=
  EditorInput.read (i.write .full)

/-- The input of the editor read again, with its marks. -/
def EditorInput.openByRecord (i : EditorInput) : Checked EditorInput :=
  EditorInput.read (i.write .full)

/-- The output read for the editor from its record. -/
def StoredOutput.openByRecord (o : StoredOutput) : Checked EditorOutput :=
  EditorOutput.read (o.write .full)

/-- The output of the editor read again, with its mark. -/
def EditorOutput.openByRecord (o : EditorOutput) : Checked EditorOutput :=
  EditorOutput.read (o.write .full)

/-- The edge read for the editor from its record. -/
def StoredEdge.openByRecord (e : StoredEdge) : Checked EditorEdge :=
  EditorEdge.read (e.write .full)

/-- The edge of the editor read again, with the way it is drawn. -/
def EditorEdge.openByRecord (e : EditorEdge) : Checked EditorEdge :=
  EditorEdge.read (e.write .full)

/-- A flow opened part by part, its edges before its nodes. -/
def openByRecords {ι ο ε : Type} (openInput : ι → Checked EditorInput)
    (openOutput : ο → Checked EditorOutput) (openEdge : ε → Checked EditorEdge)
    (f : FlowOf (NodeOf (DataOf ι ο)) ε) : Checked EditorFlow :=
  (Checked.each openEdge f.edges).andThen fun edges =>
    (Checked.each (NodeOf.convert (DataOf.convert openInput openOutput)) f.nodes).andThen fun nodes =>
      .valid (openFlow { f with nodes, edges })

/-! ### Either view -/

namespace Flow

/-- The flow saved by way of records; of a flow in the editor view only what is stored is written. -/
def saveByRecords : Flow → Checked StoredFlow
  | .stored f => f.saveByRecords
  | .editor f => StoredFlow.saveByRecords (f.map EditorNode.toStored EditorEdge.toStoredEdge)

/-- The flow opened by way of records. -/
def openByRecords : Flow → Checked EditorFlow
  | .stored f =>
    WorkflowCheck.openByRecords StoredInput.openByRecord StoredOutput.openByRecord
      StoredEdge.openByRecord f
  | .editor f =>
    WorkflowCheck.openByRecords EditorInput.openByRecord EditorOutput.openByRecord
      EditorEdge.openByRecord (f.map (fun n => n.toNodeOf.map (·.toDataOf)) id)

end Flow

end WorkflowCheck
