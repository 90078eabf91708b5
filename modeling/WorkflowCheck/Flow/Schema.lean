import WorkflowCheck.Flow.Editor

/-!
# The schema

Every kind of record that flows are made of, by the name that messages give it: how a value is read as
such a record, and how the record is written.
-/

namespace WorkflowCheck

open Decode

/-- A kind of record with its reader and its writer. -/
structure RecordKind where
  name : String
  Record : Type
  read : Value → Checked Record
  write : Form → Record → Value

namespace RecordKind

/-- A value read and written on the wire: its normal form among the records of the kind. -/
def normalize (k : RecordKind) (v : Value) : Checked Value :=
  (k.read v).map (k.write .wire)

end RecordKind

/-- The kinds of records, small parts first, then the stored view, then the editor view. -/
def recordKinds : List RecordKind :=
  [⟨"Position", Position, Position.read, Position.write⟩,
    ⟨"HandleConfig", HandleLook, HandleLook.read, HandleLook.write⟩,
    ⟨"SelectOption", SelectOption, SelectOption.read, SelectOption.write⟩,
    ⟨"InstanceState", LoadState, LoadState.read, LoadState.write⟩,
    ⟨"MenuItem", MenuItem, MenuItem.read, MenuItem.write⟩,
    ⟨"HandleSignal", HandleSignal, HandleSignal.read, HandleSignal.write⟩,
    ⟨"EssentialInput", StoredInput, StoredInput.read, StoredInput.write⟩,
    ⟨"EssentialOutput", StoredOutput, StoredOutput.read, StoredOutput.write⟩,
    ⟨"EssentialNodeData", StoredData, StoredData.read, StoredData.write⟩,
    ⟨"EssentialNode", StoredNode, StoredNode.read, StoredNode.write⟩,
    ⟨"EssentialEdge", StoredEdge, StoredEdge.read, StoredEdge.write⟩,
    ⟨"EssentialFlow", StoredFlow, StoredFlow.read, StoredFlow.write⟩,
    ⟨"FullInput", EditorInput, EditorInput.read, EditorInput.write⟩,
    ⟨"FullOutput", EditorOutput, EditorOutput.read, EditorOutput.write⟩,
    ⟨"FullEdge", EditorEdge, EditorEdge.read, EditorEdge.write⟩,
    ⟨"FullNodeData", EditorData, EditorData.read, EditorData.write⟩,
    ⟨"FullNode", EditorNode, EditorNode.read, EditorNode.write⟩,
    ⟨"FullFlow", EditorFlow, EditorFlow.read, EditorFlow.write⟩]

end WorkflowCheck
