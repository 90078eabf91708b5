import WorkflowCheck.Flow.Restore
import WorkflowCheck.Proofs.Decode.ReadsAs

/-!
# What is stored does not depend on the view

A saved value that reads as a flow of the editor also reads as a stored one, and saving the first gives
what saving the second gives (`EditorFlow.readsAs`).  Opening a stored flow and saving it again
changes nothing but what saving always drops (`StoredFlow.toStored_toEditor`).  So it does not matter to
what is stored in which of the two views a saved value is opened (`restoreFlow_keeps_stored`).
-/

namespace WorkflowCheck

open Decode Checked

/-! ### Reading in the editor view and in the stored one -/

theorem EditorInput.readsAs : ReadsAs EditorInput.read StoredInput.read EditorInput.toStoredInput :=
  .record fun _ => .seq (.seq (.seq (.map fun _ hfields _ _ _ => hfields)))

theorem EditorOutput.readsAs : ReadsAs EditorOutput.read StoredOutput.read EditorOutput.toStoredOutput :=
  .record fun _ => .seq (.map fun _ hfields _ => hfields)

theorem EditorEdge.readsAs : ReadsAs EditorEdge.read StoredEdge.read EditorEdge.toStoredEdge :=
  .record fun _ => .seq (.seq (.map fun _ hfields _ _ => hfields))

section Shape

variable {ι ο ι' ο' δ δ' ν ε ν' ε' : Type}

/-- Data are read as data when their inputs and outputs are. -/
theorem DataOf.readsAs_fields {readInput : Value → Checked ι} {readInput' : Value → Checked ι'}
    {readOutput : Value → Checked ο} {readOutput' : Value → Checked ο'} {f : ι → ι'} {g : ο → ο'}
    (hinput : ReadsAs readInput readInput' f) (houtput : ReadsAs readOutput readOutput' g) :
    ReadsAs (DataOf.fields readInput readOutput) (DataOf.fields readInput' readOutput')
      (DataOf.map f g) := by
  intro v d hd
  simp only [DataOf.fields, seq_eq_valid_iff, map_eq_valid_iff] at hd ⊢
  obtain ⟨_, outputs, ⟨_, inputs, ⟨_, collection, ⟨_, description, ⟨title, htitle, rfl⟩, hdescription,
    rfl⟩, hcollection, rfl⟩, hinputs, rfl⟩, houtputs, rfl⟩ := hd
  exact ⟨_, _, ⟨_, _, ⟨_, _, ⟨_, _, ⟨_, htitle, rfl⟩, hdescription, rfl⟩, hcollection, rfl⟩,
    hinput.list.withDefault v inputs hinputs, rfl⟩, houtput.list.withDefault v outputs houtputs, rfl⟩

/-- Nodes are read as nodes when their data are. -/
theorem NodeOf.readsAs_fields {readData : Value → Checked δ} {readData' : Value → Checked δ'} {noData : δ}
    {f : δ → δ'} (hdata : ReadsAs readData readData' f) :
    ReadsAs (NodeOf.fields readData noData) (NodeOf.fields readData' (f noData)) (NodeOf.map f) := by
  intro v n hn
  simp only [NodeOf.fields, seq_eq_valid_iff, map_eq_valid_iff] at hn ⊢
  obtain ⟨_, data, ⟨_, version, ⟨_, position, ⟨_, type, ⟨id, hid, rfl⟩, htype, rfl⟩, hposition, rfl⟩,
    hversion, rfl⟩, hdata', rfl⟩ := hn
  exact ⟨_, _, ⟨_, _, ⟨_, _, ⟨_, _, ⟨_, hid, rfl⟩, htype, rfl⟩, hposition, rfl⟩, hversion, rfl⟩,
    hdata.withDefault v data hdata', rfl⟩

/-- Flows are read as flows when their nodes and edges are. -/
theorem FlowOf.readsAs_fields {readNode : Value → Checked ν} {readNode' : Value → Checked ν'}
    {readEdge : Value → Checked ε} {readEdge' : Value → Checked ε'} {f : ν → ν'} {g : ε → ε'}
    (hnode : ReadsAs readNode readNode' f) (hedge : ReadsAs readEdge readEdge' g) :
    ReadsAs (FlowOf.fields readNode readEdge) (FlowOf.fields readNode' readEdge') (FlowOf.map f g) := by
  intro v flow hflow
  simp only [FlowOf.fields, seq_eq_valid_iff, map_eq_valid_iff] at hflow ⊢
  obtain ⟨_, edges, ⟨_, nodes, ⟨_, thumbnail, ⟨name, hname, rfl⟩, hthumbnail, rfl⟩, hnodes, rfl⟩, hedges,
    rfl⟩ := hflow
  exact ⟨_, _, ⟨_, _, ⟨_, _, ⟨_, hname, rfl⟩, hthumbnail, rfl⟩,
    hnode.list.withDefault v nodes hnodes, rfl⟩, hedge.list.withDefault v edges hedges, rfl⟩

end Shape

/-- The data of a node as they are stored. -/
def EditorData.toStored (d : EditorData) : StoredData :=
  d.toDataOf.map EditorInput.toStoredInput EditorOutput.toStoredOutput

theorem EditorData.readsAs : ReadsAs EditorData.read StoredData.read EditorData.toStored :=
  .record fun v => .seq (.seq (.seq (.seq (.seq (.seq (.seq (.map
    fun d hd _ _ _ _ _ _ _ => DataOf.readsAs_fields EditorInput.readsAs EditorOutput.readsAs v d hd)))))))

theorem EditorNode.readsAs : ReadsAs EditorNode.read StoredNode.read EditorNode.toStored :=
  .record fun v => .seq (.seq (.seq (.seq (.seq (.seq (.map
    fun n hn _ _ _ _ _ _ => NodeOf.readsAs_fields EditorData.readsAs v n hn))))))

theorem EditorFlow.readsAs :
    ReadsAs EditorFlow.read StoredFlow.read (FlowOf.map EditorNode.toStored EditorEdge.toStoredEdge) :=
  .record (FlowOf.readsAs_fields EditorNode.readsAs EditorEdge.readsAs)

/-! ### Opening and saving -/

/-- A node that has been opened among some edges is stored as it was. -/
theorem StoredNode.toStored_openNode (edges : List EditorEdge) (n : StoredNode) :
    (openNode edges (n.map fun d => d.map StoredInput.toEditor StoredOutput.toEditor)).toStored = n := by
  obtain ⟨id, type, position, version, ⟨title, description, collection, inputs, outputs⟩⟩ := n
  have hinputs : (inputs.map StoredInput.toEditor).map EditorInput.toStoredInput = inputs := by
    rw [List.map_map]
    exact List.map_id inputs
  have houtputs : (outputs.map StoredOutput.toEditor).map EditorOutput.toStoredOutput = outputs := by
    rw [List.map_map]
    exact List.map_id outputs
  simp only [openNode, EditorNode.toStored, NodeOf.map, DataOf.map, hinputs, houtputs]

/-- Opening a stored flow and saving it gives the flow that saving gives at once. -/
theorem StoredFlow.toStored_toEditor (g : StoredFlow) : g.toEditor.toStored = g.tidied := by
  obtain ⟨name, thumbnail, nodes, edges⟩ := g
  have hnodes : ∀ opened : List EditorEdge,
      ((nodes.map fun n => n.map fun d => d.map StoredInput.toEditor StoredOutput.toEditor).map
        (openNode opened)).map EditorNode.toStored = nodes := by
    intro opened
    rw [List.map_map, List.map_map]
    exact (List.map_congr_left fun n _ => StoredNode.toStored_openNode opened n).trans (List.map_id nodes)
  have hedges : ((edges.map StoredEdge.toEditor).map id).map EditorEdge.toStoredEdge = edges := by
    rw [List.map_id, List.map_map]
    exact List.map_id edges
  simp only [EditorFlow.toStored, StoredFlow.toEditor, openFlow, FlowOf.map, hnodes, hedges]

/-- A flow that was opened is stored as the flow that its payload reads as in the stored view, and a
payload that reads in the editor view reads in the stored view as what is stored of it.  Saving drops
empty lists of options, so it is applied on both sides. -/
theorem restoreFlow_keeps_stored (p : Value) :
    (∀ f, restoreFlow p = .ok f → ∃ g, StoredFlow.read p = .valid g ∧
      (Flow.editor f).toStored.write .wire = (Flow.stored g).toStored.write .wire) ∧
    ∀ f, EditorFlow.read p = .valid f → ∃ g, StoredFlow.read p = .valid g ∧
      (Flow.editor f).toStored = (Flow.stored g).toStored := by
  have heditor : ∀ f, EditorFlow.read p = .valid f → ∃ g, StoredFlow.read p = .valid g ∧
      (Flow.editor f).toStored = (Flow.stored g).toStored := fun f hf =>
    ⟨_, EditorFlow.readsAs p f hf, rfl⟩
  refine ⟨?_, heditor⟩
  intro f hf
  unfold restoreFlow at hf
  split_ifs at hf with hobject hnodes hedges hedited
  · cases hread : EditorFlow.read p with
    | valid e =>
      rw [hread] at hf
      cases hf
      obtain ⟨g, hg, hsame⟩ := heditor f hread
      exact ⟨g, hg, by rw [hsame]⟩
    | faulty ps =>
      rw [hread] at hf
      cases hf
  · cases hread : StoredFlow.read p with
    | valid g =>
      rw [hread] at hf
      cases hf
      refine ⟨g, rfl, ?_⟩
      show g.toEditor.toStored.write .wire = g.tidied.write .wire
      rw [StoredFlow.toStored_toEditor]
    | faulty ps =>
      rw [hread] at hf
      cases hf

/-- A saved value of which only the first node, which has no data, shows traces of the editor. -/
def mixedFlow : Value :=
  .record
    [("name", .str "Prices"),
      ("nodes", .arr
        [.record
          [("id", .str "a"), ("type", .str "code_node"), ("width", .int 320),
            ("position", .record [("x", .int 0), ("y", .str "1.5")])],
        .record
          [("id", .str "b"), ("type", .str "vault_node"),
            ("position", .record [("x", .int 400), ("y", .int 0)]),
            ("data", .record
              [("inputs", .arr
                [.record [("id", .str "chain"), ("isDeleted", .bool true), ("options", .arr [])]])])]]),
      ("edges", .arr
        [.record
          [("source", .str "a"), ("sourceHandle", .str "output_data-handle"), ("target", .str "b"),
            ("target_handle", .str "chain-handle"), ("animated", .str "yes")]])]

theorem restoreFlow_mixedFlow :
    ∃ f, EditorFlow.read mixedFlow = .valid f ∧ restoreFlow mixedFlow = .ok f ∧
      (∃ g, StoredFlow.read mixedFlow = .valid g ∧
        (Flow.editor f).toStored.write .wire = (Flow.stored g).toStored.write .wire) ∧
      ∃ g, StoredFlow.read mixedFlow = .valid g ∧
        (Flow.editor f).toStored = (Flow.stored g).toStored := by
  have hread : (EditorFlow.read mixedFlow).toOption.isSome = true := by decide +kernel
  cases h : EditorFlow.read mixedFlow with
  | valid f =>
    have hedited : restoreFlow mixedFlow = .ok f := by
      unfold restoreFlow
      rw [h]
      rfl
    have hkeeps := restoreFlow_keeps_stored mixedFlow
    exact ⟨f, rfl, hedited, hkeeps.1 f hedited, hkeeps.2 f h⟩
  | faulty ps =>
    rw [h] at hread
    cases hread
end WorkflowCheck
