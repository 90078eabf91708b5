import WorkflowCheck.Proofs.Flow.Projection
import WorkflowCheck.Proofs.Flow.Restore
import WorkflowCheck.Proofs.Lint.Failure

/-!
# Linting a flow in either view

A flow is linted as it is stored.  Of the record of a node a snapshot takes the id, the type, the position,
the version, and of its inputs and outputs what `RawInput` and `RawOutput` hold, whatever else stands in the
records (`NodeOf.ofValue_of_entries`).  So it does not see the empty lists of options that saving drops
(`StoredFlow.lint_tidied`), and saving a flow, opening it and restoring it from what was saved all leave its
report as it was (`Flow.lint_roundTrip`).
-/

namespace WorkflowCheck

open Decode

/-! ### What a snapshot takes of a record -/

section Records

variable {v : Value}

/-- A record with the entries of a stored input, and maybe others, is read as that input. -/
theorem StoredInput.ofValue_of_entries {i : StoredInput} {fields : List (FieldName × Value)}
    (hv : v = Form.wire.record fields) (hapart : Apart fields) (hsub : i.entries .wire ⊆ fields)
    (index : Nat) :
    RawInput.ofValue index v = ⟨index, (Value.str i.id).filledText?, i.value⟩ := by
  have hid : v.field "id" = .str i.id :=
    field_of_entry (n := .same "id") hv hapart (hsub (by simp [entries]))
  have hvalue : v.field "value" = i.value :=
    field_of_entry (n := .same "value") hv hapart (hsub (by simp [entries]))
  rw [RawInput.ofValue, hid, hvalue]

theorem StoredInput.ofValue_write (i : StoredInput) (index : Nat) :
    RawInput.ofValue index (i.write .wire) = ⟨index, (Value.str i.id).filledText?, i.value⟩ :=
  ofValue_of_entries rfl (by simp [entries, FieldName.same]) (List.Subset.refl _) index

/-- A record with the entries of a stored output is read as that output, with the mark that it has. -/
theorem StoredOutput.ofValue_of_entries {out : StoredOutput} {fields : List (FieldName × Value)}
    (hv : v = Form.wire.record fields) (hapart : Apart fields) (hsub : out.entries .wire ⊆ fields)
    (index : Nat) :
    RawOutput.ofValue index v = ⟨index, (Value.str out.id).filledText?, v.get? "isDeleted"⟩ := by
  have hid : v.field "id" = .str out.id :=
    field_of_entry (n := .same "id") hv hapart (hsub (by simp [entries]))
  rw [RawOutput.ofValue, hid]

theorem StoredOutput.ofValue_write (out : StoredOutput) (index : Nat) :
    RawOutput.ofValue index (out.write .wire) = ⟨index, (Value.str out.id).filledText?, none⟩ := by
  have hapart : Apart (out.entries .wire) := by simp [entries, FieldName.same]
  have hunmarked : (out.write .wire).get? "isDeleted" = none :=
    get?_record_eq_none (by simp [entries, FieldName.same])
  rw [← hunmarked]
  exact ofValue_of_entries rfl hapart (List.Subset.refl _) index

/-- A record with the entries of a stored edge is read as that edge. -/
theorem StoredEdge.ofValue_of_entries {e : StoredEdge} {fields : List (FieldName × Value)}
    (hv : v = Form.wire.record fields) (hapart : Apart fields) (hsub : e.entries ⊆ fields) (index : Nat) :
    RawEdge.ofValue index v =
      { index
        id := (Value.str e.id).filledText?
        source := (Value.str e.source).filledText?
        sourceHandle := (Value.str e.sourceHandle).filledText?
        target := (Value.str e.target).filledText?
        targetHandle := (Value.str e.targetHandle).filledText? } := by
  have hid : v.field "id" = .str e.id :=
    field_of_entry (n := .same "id") hv hapart (hsub (by simp [entries]))
  have hsource : v.field "source" = .str e.source :=
    field_of_entry (n := .same "source") hv hapart (hsub (by simp [entries]))
  have htarget : v.field "target" = .str e.target :=
    field_of_entry (n := .same "target") hv hapart (hsub (by simp [entries]))
  have hout : v.field "sourceHandle" = .str e.sourceHandle :=
    field_of_entry (n := ⟨"sourceHandle", "source_handle"⟩) hv hapart (hsub (by simp [entries]))
  have hin : v.field "targetHandle" = .str e.targetHandle :=
    field_of_entry (n := ⟨"targetHandle", "target_handle"⟩) hv hapart (hsub (by simp [entries]))
  rw [RawEdge.ofValue, hid, hsource, htarget, hout, hin]

theorem StoredEdge.ofValue_write (e : StoredEdge) (index : Nat) :
    RawEdge.ofValue index (e.write .wire) =
      { index
        id := (Value.str e.id).filledText?
        source := (Value.str e.source).filledText?
        sourceHandle := (Value.str e.sourceHandle).filledText?
        target := (Value.str e.target).filledText?
        targetHandle := (Value.str e.targetHandle).filledText? } :=
  ofValue_of_entries rfl (by simp [entries, FieldName.same]) (List.Subset.refl _) index

/-- The raw node of a written node, with its raw inputs and outputs. -/
def NodeOf.raw {δ : Type} (n : NodeOf δ) (index : Nat) (inputs : List RawInput) (outputs : List RawOutput) :
    RawNode where
  index := index
  id := (Value.str n.id).filledText?
  type := .str n.type
  position := n.position.write .wire
  shape := .nested
  inputs := inputs
  outputs := outputs
  version := n.version.map .str

/-- A record with the entries of a node, of which the data are a record with entries of inputs and outputs,
keeps its fields in its data, be there any or not. -/
theorem NodeOf.ofValue_of_entries {δ ι ο : Type} {n : NodeOf δ} {d : DataOf ι ο} {writeData : δ → Value}
    {writeInput : ι → Value} {writeOutput : ο → Value} {fields dataFields : List (FieldName × Value)}
    (hv : v = Form.wire.record fields) (hapart : Apart fields)
    (hsub : NodeOf.entries .wire writeData n ⊆ fields)
    (hnested : ∀ e ∈ fields, e.1.Apart (.same "inputs") ∧ e.1.Apart (.same "outputs"))
    (hdata : writeData n.data = Form.wire.record dataFields) (hdataApart : Apart dataFields)
    (hdataSub : DataOf.entries writeInput writeOutput d ⊆ dataFields) (index : Nat) :
    RawNode.ofValue index v = n.raw index (readIndexed RawInput.ofValue (d.inputs.map writeInput))
      (readIndexed RawOutput.ofValue (d.outputs.map writeOutput)) := by
  have hid : v.field "id" = .str n.id :=
    field_of_entry (n := .same "id") hv hapart (hsub (by simp [NodeOf.entries]))
  have htype : v.field "type" = .str n.type :=
    field_of_entry (n := .same "type") hv hapart (hsub (by simp [NodeOf.entries]))
  have hposition : v.field "position" = n.position.write .wire :=
    field_of_entry (n := .same "position") hv hapart (hsub (by simp [NodeOf.entries]))
  have hholds : v.field "data" = writeData n.data :=
    field_of_entry (n := .same "data") hv hapart (hsub (by simp [NodeOf.entries]))
  have hversion : v.get? "version" = n.version.map .str := by
    have hmem : (.same "version", writeOptional Value.str n.version) ∈ fields :=
      hsub (by simp [NodeOf.entries])
    rw [hv]
    refine (get?_record_wire hapart hmem).trans ?_
    cases n.version <;> rfl
  have hnoInputs : v.get? "inputs" = none := by
    rw [hv]
    exact get?_record_eq_none fun e he => ⟨(hnested e he).1.1, (hnested e he).1.2.2.1⟩
  have hnoOutputs : v.get? "outputs" = none := by
    rw [hv]
    exact get?_record_eq_none fun e he => ⟨(hnested e he).2.1, (hnested e he).2.2.2.1⟩
  have hinputs : (writeData n.data).get? "inputs" = some (writeList writeInput d.inputs) :=
    get?_of_entry (n := .same "inputs") hdata hdataApart (hdataSub (by simp [DataOf.entries])) rfl
  have houtputs : (writeData n.data).get? "outputs" = some (writeList writeOutput d.outputs) :=
    get?_of_entry (n := .same "outputs") hdata hdataApart (hdataSub (by simp [DataOf.entries])) rfl
  have hshape : RawNode.shapeOf v = .nested := by
    rw [RawNode.shapeOf, Value.has, Value.has, hnoInputs, hnoOutputs, hholds, Value.has, hinputs]
    rfl
  have hholder : RawNode.holder v = writeData n.data := by
    rw [RawNode.holder, hshape]
    exact hholds
  rw [RawNode.ofValue, hid, htype, hposition, hshape, hholder, hversion, Value.field, hinputs,
    Value.field, houtputs]
  rfl

theorem StoredNode.ofValue_write (n : StoredNode) (index : Nat) :
    RawNode.ofValue index (n.write .wire) =
      n.raw index (readIndexed RawInput.ofValue (n.data.inputs.map (StoredInput.write .wire)))
        (readIndexed RawOutput.ofValue (n.data.outputs.map (StoredOutput.write .wire))) := by
  have hapart : Apart (NodeOf.entries .wire (StoredData.write .wire) n) := by
    simp [NodeOf.entries, FieldName.same]
  have hdataApart : Apart (DataOf.entries (StoredInput.write .wire) (StoredOutput.write .wire) n.data) := by
    simp [DataOf.entries, FieldName.same]
  exact NodeOf.ofValue_of_entries rfl hapart (List.Subset.refl _) (by simp [NodeOf.entries, FieldName.same])
    rfl hdataApart (List.Subset.refl _) index

end Records

/-- A snapshot does not see the options of an input. -/
theorem StoredNode.ofValue_tidied (n : StoredNode) (index : Nat) :
    RawNode.ofValue index (StoredNode.write .wire (n.map fun d => d.map StoredInput.tidied id)) =
      RawNode.ofValue index (n.write .wire) := by
  have hinput : ∀ k (i : StoredInput), RawInput.ofValue k (i.tidied.write .wire) =
      RawInput.ofValue k (i.write .wire) := by
    intro k i
    rw [StoredInput.ofValue_write, StoredInput.ofValue_write]
    rfl
  have hinputs := readIndexed_map_congr hinput n.data.inputs
  rw [StoredNode.ofValue_write, StoredNode.ofValue_write]
  simp only [NodeOf.map, DataOf.map, List.map_map, List.map_id, Function.comp_def, hinputs]
  rfl

/-! ### Reports of stored flows -/

section Reports

variable {r : Registry} {o : Options}

/-- A written flow has lists, in either view. -/
theorem FlowOf.hasLists_write {ν ε : Type} {writeNode : ν → Value} {writeEdge : ε → Value} (f : FlowOf ν ε) :
    HasLists (f.write .wire writeNode writeEdge) := by
  refine ⟨rfl, ?_, ?_⟩
  · rw [FlowOf.field_nodes_write]
    rfl
  · rw [FlowOf.field_edges_write]
    rfl

/-- The snapshot of a written flow is that of its written nodes and edges. -/
theorem FlowOf.flowSnapshot_write {ν ε : Type} {writeNode : ν → Value} {writeEdge : ε → Value}
    (f : FlowOf ν ε) :
    flowSnapshot (f.write .wire writeNode writeEdge) =
      .ofValues (f.nodes.map writeNode) (f.edges.map writeEdge) := by
  rw [flowSnapshot, flowNodes, flowEdges, FlowOf.field_nodes_write, FlowOf.field_edges_write]
  rfl

theorem StoredFlow.hasLists_write (f : StoredFlow) : HasLists (f.write .wire) :=
  FlowOf.hasLists_write f

theorem StoredFlow.flowNodes_write (f : StoredFlow) :
    flowNodes (f.write .wire) = f.nodes.map (StoredNode.write .wire) := by
  rw [flowNodes, StoredFlow.write, FlowOf.field_nodes_write]
  rfl

/-- Dropping empty lists of options is not seen by a snapshot. -/
theorem StoredFlow.flowSnapshot_tidied (f : StoredFlow) :
    flowSnapshot (f.tidied.write .wire) = flowSnapshot (f.write .wire) := by
  have hnodes : readIndexed RawNode.ofValue (f.tidied.nodes.map (StoredNode.write .wire)) =
      readIndexed RawNode.ofValue (f.nodes.map (StoredNode.write .wire)) := by
    rw [tidied, FlowOf.map, List.map_map]
    exact readIndexed_map_congr (fun k n => StoredNode.ofValue_tidied n k) f.nodes
  have hedges : f.tidied.edges = f.edges := List.map_id f.edges
  rw [StoredFlow.write, StoredFlow.write, FlowOf.flowSnapshot_write, FlowOf.flowSnapshot_write, hedges,
    Snapshot.ofValues, Snapshot.ofValues, hnodes]

theorem StoredFlow.lint_tidied (f : StoredFlow) :
    lint r o (f.tidied.write .wire) = lint r o (f.write .wire) := by
  rw [lint_eq_snapshot f.tidied.hasLists_write, lint_eq_snapshot f.hasLists_write, f.flowSnapshot_tidied]

/-- Nothing in a stored flow ends a run: its types and versions are texts, and its coordinates are doubles
from the start. -/
theorem StoredFlow.exists_lint (f : StoredFlow) : ∃ report, lint r o (f.write .wire) = .ok report := by
  have hposition : ∀ n : StoredNode, ((n.write .wire).field "position").HasFittingNumbers := by
    intro n
    have hfloat : ∀ d : Double, (Value.float d).FitsDouble := by
      rintro d i ⟨⟩
    have hpos : (n.write .wire).field "position" = n.position.write .wire := by
      have hraw := congrArg RawNode.position (n.ofValue_write 0)
      exact hraw
    rw [hpos]
    exact ⟨hfloat n.position.x, hfloat n.position.y⟩
  rw [exists_lint_eq_ok_iff f.hasLists_write, flowNodes_write]
  -- one case for each of the fields that a run can fail at, the last one in two nodes at once
  rintro ⟨v, hv, -, hfails⟩
  obtain ⟨n, -, rfl⟩ := List.mem_map.mp hv
  rcases hfails with htype | hoversized | hversion | ⟨-, -, w, hw, hoversized⟩
  · have hraw : (n.write .wire).field "type" = .str n.type := congrArg RawNode.type (n.ofValue_write 0)
    rw [hraw] at htype
    cases htype
  · exact hoversized.2 (hposition n)
  · have hraw : (n.write .wire).get? "version" = n.version.map .str :=
      congrArg RawNode.version (n.ofValue_write 0)
    rw [Value.field, hraw] at hversion
    cases hn : n.version with
    | none =>
      rw [hn] at hversion
      cases hversion
    | some tag =>
      rw [hn] at hversion
      cases hversion
  · rw [flowNodes_write] at hw
    obtain ⟨m, -, rfl⟩ := List.mem_map.mp hw
    exact hoversized.2 (hposition m)

end Reports

/-! ### Saving, opening and restoring -/

/-- What a stored flow is saved as shows no traces of the editor. -/
theorem restoreFlow_stored {s : StoredFlow} (hs : s.HasIds) :
    restoreFlow (s.write .wire) = .ok s.toEditor := by
  have hedited : ∀ n : StoredNode, looksEdited (n.write .wire) = false := by
    intro n
    have hwidth : (n.write .wire).get? "width" = none :=
      get?_record_eq_none (by simp [NodeOf.entries, FieldName.same])
    have hclass : (n.write .wire).get? "className" = none :=
      get?_record_eq_none (by simp [NodeOf.entries, FieldName.same])
    rw [looksEdited, Value.has, Value.has, hwidth, hclass]
    rfl
  have hstored : (flowNodes (s.write .wire)).any looksEdited = false := by
    rw [s.flowNodes_write, List.any_map]
    exact List.any_eq_false.mpr fun n _ => Bool.eq_false_iff.mp (hedited n)
  obtain ⟨hobject, hnodes, hedges⟩ : (s.write .wire).isObject = true ∧
    ((s.write .wire).field "nodes").isList = true ∧ ((s.write .wire).field "edges").isList = true :=
    FlowOf.isList_write s
  rw [flowNodes] at hstored
  rw [restoreFlow, hobject, hnodes, hedges, hstored, StoredFlow.read_write .wire hs]
  rfl

/-- A flow of the editor is restored with all that is stored of it. -/
theorem EditorFlow.exists_restored {f : EditorFlow} (hf : f.kept.HasIds) :
    ∃ g, restoreFlow (f.write .wire) = .ok g ∧ g.kept = f.kept := by
  by_cases hnodes : f.nodes = []
  · refine ⟨f.undrawn, restoreFlow_write_of_no_nodes hf hnodes, ?_⟩
    rw [kept, undrawn, kept, FlowOf.map, FlowOf.map, List.map_map]
    rfl
  · exact ⟨f, restoreFlow_write_of_nodes hf hnodes, rfl⟩

namespace Flow

variable {r : Registry} {o : Options}

theorem flowSnapshot_storedWire (x : Flow) :
    flowSnapshot x.storedWire = flowSnapshot (x.kept.write .wire) := by
  cases x with
  | stored f => rfl
  | editor f => exact f.kept.flowSnapshot_tidied

/-- The report of a flow is that of what is kept of it. -/
theorem lint_storedWire (x : Flow) : lint r o x.storedWire = lint r o (x.kept.write .wire) := by
  cases x with
  | stored f => rfl
  | editor f => exact f.kept.lint_tidied

/-- **Round trips between the views do not change a report.**  A stored flow has one report, also when it
is opened in the editor or saved once more; and a flow of the editor has one report, also when it is
restored from what it is written as or from what it is saved as. -/
theorem lint_roundTrip (r : Registry) (o : Options) (v : Value) :
    (∀ e, StoredFlow.read v = .valid e → ∃ opened saved report,
      (Flow.stored e).openByRecords = .valid opened ∧ (Flow.stored e).saveByRecords = .valid saved ∧
        lint r o (Flow.stored e).storedWire = .ok report ∧
        lint r o (Flow.editor opened).storedWire = .ok report ∧
        lint r o (Flow.stored saved).storedWire = .ok report) ∧
      ∀ f, EditorFlow.read v = .valid f → ∃ saved restored reopened report,
        (Flow.editor f).saveByRecords = .valid saved ∧ restoreFlow (f.write .wire) = .ok restored ∧
          restoreFlow (saved.write .wire) = .ok reopened ∧
          lint r o (Flow.editor f).storedWire = .ok report ∧
          lint r o (Flow.editor restored).storedWire = .ok report ∧
          lint r o (Flow.editor reopened).storedWire = .ok report := by
  refine ⟨fun e he => ?stored, fun f hf => ?editor⟩
  case stored =>
    have hids : (Flow.stored e).kept.HasIds := StoredFlow.ensures_read v e he
    obtain ⟨report, hreport⟩ := StoredFlow.exists_lint (r := r) (o := o) e
    refine ⟨(Flow.stored e).toEditor, (Flow.stored e).toStored, report, openByRecords_eq hids,
      saveByRecords_eq hids, ?_, ?_, ?_⟩
    · exact hreport
    · rw [lint_storedWire, kept_toEditor]
      exact hreport
    · exact e.lint_tidied.trans hreport
  case editor =>
    have hids : f.kept.HasIds := EditorFlow.ensures_read v f hf
    obtain ⟨report, hreport⟩ := StoredFlow.exists_lint (r := r) (o := o) f.kept
    -- without nodes the restored flow can differ in how its edges are drawn, which is not stored
    obtain ⟨restored, hrestored, hkept⟩ := f.exists_restored hids
    refine ⟨f.kept.tidied, restored, f.kept.tidied.toEditor, report, saveByRecords_eq hids, hrestored,
      restoreFlow_stored hids.tidied, ?_, ?_, ?_⟩
    · rw [lint_storedWire]
      exact hreport
    · have hsame : (Flow.editor restored).kept = f.kept := hkept
      rw [lint_storedWire, hsame]
      exact hreport
    · have hopened : (Flow.editor f.kept.tidied.toEditor).kept = f.kept.tidied :=
        kept_toEditor (.stored f.kept.tidied)
      rw [lint_storedWire, hopened]
      exact f.kept.lint_tidied.trans hreport

theorem mixedFlow_roundTrip :
    (∃ e opened report, StoredFlow.read mixedFlow = .valid e ∧
      (Flow.stored e).openByRecords = .valid opened ∧
      lint .builtin { strict := true } (Flow.stored e).storedWire = .ok report ∧
      lint .builtin { strict := true } (Flow.editor opened).storedWire = .ok report) ∧
    ∃ f restored report, EditorFlow.read mixedFlow = .valid f ∧
      restoreFlow (f.write .wire) = .ok restored ∧
      lint .builtin { strict := true } (Flow.editor f).storedWire = .ok report ∧
      lint .builtin { strict := true } (Flow.editor restored).storedWire = .ok report := by
  have hread : (EditorFlow.read mixedFlow).toOption.isSome = true := by decide +kernel
  cases h : EditorFlow.read mixedFlow with
  | valid f =>
    have hstored := EditorFlow.readsAs mixedFlow f h
    have htrips := lint_roundTrip .builtin { strict := true } mixedFlow
    obtain ⟨opened, -, report, hopened, -, hreport, hreopened, -⟩ := htrips.1 _ hstored
    obtain ⟨-, restored, -, report', -, hrestored, -, hreport', hback, -⟩ := htrips.2 f h
    exact ⟨⟨_, opened, report, hstored, hopened, hreport, hreopened⟩,
      f, restored, report', rfl, hrestored, hreport', hback⟩
  | faulty ps =>
    rw [h] at hread
    cases hread

end Flow

end WorkflowCheck
