import WorkflowCheck.Proofs.Lint.Alike
import WorkflowCheck.Proofs.Lint.Written
import WorkflowCheck.Registry.Builtin

/-!
# Marks of deletion

An output of the editor bears a mark of deletion, and a strict run asks that it is a truth value.  The marks
bear on issues of one code alone: a report has exactly those of `nodeMarks` (`Snapshot.only_marks`), and
everything else in it is as if no output had a mark (`Snapshot.without_marks`).  A flow of the editor is
written with marks that pass, but it is linted as it is stored, where no output has one.  So a strict run
reports every output of a known type which a run over the written flow passes, and nothing else differs
(`EditorFlow.lint_write`).
-/

namespace WorkflowCheck

open Decode

open Report (only only_append only_eq_among only_flatMap only_eq_nil without without_append without_flatMap)

/-! ### Issues of marks -/

section Only

variable {r : Registry} {o : Options} {s : Snapshot} {n : RawNode} {id : String} {c : Contract}

/-- The issue of an output whose mark of deletion is no truth value, or is not there in a strict run. -/
def markIssues (o : Options) (id : String) (out : RawOutput) : List Issue :=
  if (o.strict || out.deleted.isSome) && !isTruthValue out.deleted then
    [.ofField .error .invalidOutputDeleted id .output out.id
      ("Node " ++ id ++ " output " ++ out.id.getD ("at index " ++ toString out.index)
        ++ " must have boolean isDeleted field")]
  else []

/-- The issues of the marks of a node with an id and a contract. -/
def nodeMarks (r : Registry) (o : Options) (n : RawNode) : List Issue :=
  match n.id, r.checkedContract? n with
  | some id, some _ => n.outputs.flatMap (markIssues o id)
  | _, _ => []

theorem only_outputIssues (out : RawOutput) :
    only .invalidOutputDeleted (outputIssues o id c out) = markIssues o id out := by
  obtain ⟨index, field, deleted⟩ := out
  unfold outputIssues markIssues
  cases field with
  | none =>
    dsimp only
    split_ifs <;> rfl
  | some field =>
    dsimp only
    split_ifs <;> rfl

theorem only_formIssues (hid : n.id = some id) (repeated : Bool) :
    only .invalidOutputDeleted (formIssues r o s repeated n id) = nodeMarks r o n := by
  have htype : only .invalidOutputDeleted (typeIssues r n id) = [] :=
    only_eq_nil (fun i hi => (typeIssues_isOn i hi).bears) (by decide)
  have hposition : only .invalidOutputDeleted (positionIssues n id) = [] :=
    only_eq_nil (fun i hi => (positionIssues_isOn i hi).bears) (by decide)
  rw [formIssues, nodeMarks, hid, only_append, only_append, only_append,
    only_eq_nil repeatedIssues_bears (by decide), htype, hposition]
  cases r.checkedContract? n with
  | none => rfl
  | some c =>
    dsimp only
    rw [only_append, only_eq_nil inputsIssues_bears (by decide), only_flatMap]
    exact List.flatMap_congr fun out _ => only_outputIssues out

theorem only_nodeIssues (repeated : Bool) (n : RawNode) :
    only .invalidOutputDeleted (nodeIssues r o s repeated n) = nodeMarks r o n := by
  cases hid : n.id with
  | none =>
    rw [nodeIssues_of_no_id hid, nodeMarks, hid]
    rfl
  | some id =>
    rw [only_eq_among, among_nodeIssues_of_id hid (by decide) (by decide), ← only_eq_among,
      only_formIssues hid]

/-- What a report says of marks of deletion. -/
theorem Snapshot.only_marks :
    only .invalidOutputDeleted (s.issues r o) = s.nodes.flatMap (nodeMarks r o) := by
  rw [only_issues (by decide) (by decide), only_nodesIssues only_nodeIssues]

/-- A mark that is a truth value is passed. -/
theorem markIssues_of_truthValue {out : RawOutput} (h : isTruthValue out.deleted = true) :
    markIssues o id out = [] := by
  rw [markIssues, h, Bool.not_true, Bool.and_false, if_neg Bool.false_ne_true]

theorem nodeMarks_of_truthValues (h : ∀ out ∈ n.outputs, isTruthValue out.deleted = true) :
    nodeMarks r o n = [] := by
  rw [nodeMarks]
  split
  · exact List.flatMap_eq_nil_iff.mpr fun out hout => markIssues_of_truthValue (h out hout)
  · rfl

end Only

/-! ### Flows without marks -/

namespace RawOutput

/-- The output without its mark of deletion. -/
def bare (out : RawOutput) : RawOutput :=
  { out with deleted := none }

end RawOutput

namespace RawNode

/-- The node without the marks of its outputs. -/
def bare (n : RawNode) : RawNode :=
  { n with outputs := n.outputs.map RawOutput.bare }

theorem bare_bare (n : RawNode) : n.bare.bare = n.bare := by
  rw [bare, bare, List.map_map]
  rfl

theorem outputIds_bare (n : RawNode) : n.bare.outputIds = n.outputIds :=
  List.filterMap_map

end RawNode

namespace Snapshot

/-- A snapshot is another one without marks, and looks up the same but for them. -/
structure BareOf (s' s : Snapshot) : Prop where
  nodes : s'.nodes = s.nodes.map RawNode.bare
  edges : s'.edges = s.edges
  found : ∀ id, s'.node? id = (s.node? id).map RawNode.bare
  fed : ∀ id field, isConnected s' id field = isConnected s id field

end Snapshot

section Bare

variable {r : Registry} {o : Options} {s s' : Snapshot} {id : String} {c : Contract}

theorem sameHead_bare (n : RawNode) : SameHead n.bare n :=
  ⟨rfl, rfl, rfl, rfl, rfl⟩

theorem Snapshot.BareOf.alike (h : s'.BareOf s) : s.Alike RawNode.bare s' where
  nodes := by
    rw [h.nodes, List.map_map]
    exact List.map_congr_left fun n _ => n.bare_bare.symm
  edges := h.edges.symm
  found id := by
    rw [h.found, Option.map_map]
    exact Option.map_congr fun n _ => n.bare_bare.symm
  fed id field := (h.fed id field).symm

theorem without_outputIssues (out : RawOutput) :
    without [.invalidOutputDeleted] (outputIssues o id c out.bare) =
      without [.invalidOutputDeleted] (outputIssues o id c out) := by
  obtain ⟨index, field, deleted⟩ := out
  unfold outputIssues RawOutput.bare
  cases field with
  | none =>
    dsimp only
    split_ifs <;> rfl
  | some field =>
    dsimp only
    split_ifs <;> rfl

theorem inputsIssues_bare (h : s'.BareOf s) (n : RawNode) :
    inputsIssues o s' n.bare id c = inputsIssues o s n id c :=
  inputsIssues_congr (n := n.bare) (h.fed id)

theorem without_formIssues (h : s'.BareOf s) (repeated : Bool) (n : RawNode) :
    without [.invalidOutputDeleted] (formIssues r o s' repeated n.bare id) =
      without [.invalidOutputDeleted] (formIssues r o s repeated n id) := by
  have houtputs : ∀ c, without [.invalidOutputDeleted] (n.bare.outputs.flatMap (outputIssues o id c)) =
      without [.invalidOutputDeleted] (n.outputs.flatMap (outputIssues o id c)) := by
    intro c
    rw [without_flatMap, without_flatMap, RawNode.bare, List.flatMap_map]
    exact List.flatMap_congr fun out _ => without_outputIssues out
  have hcontract : r.checkedContract? n.bare = r.checkedContract? n := rfl
  rw [formIssues, formIssues, hcontract]
  cases r.checkedContract? n with
  | none => rfl
  | some c =>
    simp only [without_append, inputsIssues_bare h, houtputs]
    rfl

/-- Apart from the issues of marks a report does not depend on them. -/
theorem Snapshot.without_marks (h : s'.BareOf s) :
    without [.invalidOutputDeleted] (s'.issues r o) = without [.invalidOutputDeleted] (s.issues r o) := by
  have houtputs : ∀ n : RawNode, outputHandles r n = outputHandles r n.bare := by
    intro n
    rw [outputHandles, outputHandles, n.outputIds_bare]
    rfl
  have hedges : s.edges.flatMap (edgeIssues r s) = s'.edges.flatMap (edgeIssues r s') :=
    flatMap_edgeIssues_alike h.alike houtputs fun _ => rfl
  have hnodes : without [.invalidOutputDeleted] (nodesIssues r o s' [] (s.nodes.map RawNode.bare)) =
      without [.invalidOutputDeleted] (nodesIssues r o s [] s.nodes) :=
    nodesIssues_alike (without [.invalidOutputDeleted]) (fun _ _ => without_append) sameHead_bare h.alike
      (fun repeated n _ => without_formIssues h repeated n) [] s.nodes
  rw [issues, issues, without_append, without_append, ← hedges, ← graphIssues_alike sameHead_bare h.alike,
    h.nodes, hnodes]

/-- A run over a flow whose marks are all truth values reports what a run over the flow without marks does,
less the issues of marks. -/
theorem Snapshot.lint_of_bare (h : s'.BareOf s)
    (hmarks : ∀ n ∈ s.nodes, ∀ out ∈ n.outputs, isTruthValue out.deleted = true) {report : Report}
    (hreport : s'.lint r o = .ok report) : s.lint r o = .ok (report.without [.invalidOutputDeleted]) := by
  obtain ⟨herror, rfl⟩ := lint_eq_ok_iff.mp hreport
  have hnone : only .invalidOutputDeleted (s.issues r o) = [] := by
    rw [only_marks]
    exact List.flatMap_eq_nil_iff.mpr fun n hn => nodeMarks_of_truthValues (hmarks n hn)
  refine lint_eq_ok_iff.mpr ⟨(error?_alike sameHead_bare h.alike).trans herror, ?_⟩
  rw [without_marks h, Report.without_eq_self_iff.mpr hnone]

end Bare

/-! ### The flow that the editor writes -/

theorem EditorInput.ofValue_write (i : EditorInput) (index : Nat) :
    RawInput.ofValue index (i.write .wire) = RawInput.ofValue index (i.toStoredInput.write .wire) := by
  rw [StoredInput.ofValue_write]
  exact StoredInput.ofValue_of_entries (rfl : i.write .wire = _)
    (by simp [StoredInput.entries, FieldName.same]) (List.subset_append_left _ _) index

theorem EditorOutput.ofValue_write (out : EditorOutput) (index : Nat) :
    RawOutput.ofValue index (out.write .wire) =
      ⟨index, (Value.str out.id).filledText?, some (.bool out.deleted)⟩ := by
  have hmark : (out.write .wire).get? "isDeleted" = some (.bool out.deleted) :=
    get?_of_entry (n := ⟨"isDeleted", "is_deleted"⟩) (rfl : out.write .wire = _)
      (by simp [StoredOutput.entries, FieldName.same]) (by simp) rfl
  rw [← hmark]
  exact StoredOutput.ofValue_of_entries (rfl : out.write .wire = _)
    (by simp [StoredOutput.entries, FieldName.same]) (List.subset_append_left _ _) index

theorem EditorEdge.ofValue_write (e : EditorEdge) (index : Nat) :
    RawEdge.ofValue index (e.write .wire) = RawEdge.ofValue index (e.toStoredEdge.write .wire) := by
  rw [StoredEdge.ofValue_write]
  exact StoredEdge.ofValue_of_entries (rfl : e.write .wire = _)
    (by simp [StoredEdge.entries, FieldName.same]) (List.subset_append_left _ _) index

theorem EditorNode.ofValue_write (n : EditorNode) (index : Nat) :
    RawNode.ofValue index (n.write .wire) =
      n.raw index (readIndexed RawInput.ofValue (n.data.inputs.map (EditorInput.write .wire)))
        (readIndexed RawOutput.ofValue (n.data.outputs.map (EditorOutput.write .wire))) :=
  NodeOf.ofValue_of_entries (rfl : n.write .wire = _) (by simp [NodeOf.entries, FieldName.same])
    (List.subset_append_left _ _) (by simp [NodeOf.entries, FieldName.same])
    (rfl : n.data.write .wire = _) (by simp [DataOf.entries, FieldName.same])
    (List.subset_append_left _ _) index

/-- What is stored of a node of the editor is read as the node without marks. -/
theorem EditorNode.ofValue_toStored (n : EditorNode) (index : Nat) :
    RawNode.ofValue index (StoredNode.write .wire n.toStored) =
      (RawNode.ofValue index (n.write .wire)).bare := by
  have hinputs : readIndexed RawInput.ofValue
      ((n.data.inputs.map EditorInput.toStoredInput).map (StoredInput.write .wire)) =
      readIndexed RawInput.ofValue (n.data.inputs.map (EditorInput.write .wire)) := by
    rw [List.map_map]
    exact readIndexed_map_congr (fun k i => (i.ofValue_write k).symm) n.data.inputs
  have houtputs : readIndexed RawOutput.ofValue
      ((n.data.outputs.map EditorOutput.toStoredOutput).map (StoredOutput.write .wire)) =
      (readIndexed RawOutput.ofValue (n.data.outputs.map (EditorOutput.write .wire))).map RawOutput.bare := by
    rw [List.map_map]
    refine readIndexed_map_eq_map (fun k out => ?_) n.data.outputs
    rw [EditorOutput.ofValue_write]
    exact out.toStoredOutput.ofValue_write k
  rw [StoredNode.ofValue_write, n.ofValue_write]
  show n.toStored.raw index (readIndexed RawInput.ofValue
      ((n.data.inputs.map EditorInput.toStoredInput).map (StoredInput.write .wire)))
    (readIndexed RawOutput.ofValue
      ((n.data.outputs.map EditorOutput.toStoredOutput).map (StoredOutput.write .wire))) = _
  rw [hinputs, houtputs]
  rfl

/-- A flow is linted as the flow that the editor writes, without the marks. -/
theorem EditorFlow.bareOf_write (f : EditorFlow) :
    (flowSnapshot (f.kept.write .wire)).BareOf (flowSnapshot (f.write .wire)) := by
  have hnodes : readIndexed RawNode.ofValue (f.kept.nodes.map (StoredNode.write .wire)) =
      (readIndexed RawNode.ofValue (f.nodes.map (EditorNode.write .wire))).map RawNode.bare := by
    rw [kept, FlowOf.map, List.map_map]
    exact readIndexed_map_eq_map (fun k n => n.ofValue_toStored k) f.nodes
  have hedges : readIndexed RawEdge.ofValue (f.kept.edges.map (StoredEdge.write .wire)) =
      readIndexed RawEdge.ofValue (f.edges.map (EditorEdge.write .wire)) := by
    rw [kept, FlowOf.map, List.map_map]
    exact readIndexed_map_congr (fun k e => (e.ofValue_write k).symm) f.edges
  rw [StoredFlow.write, EditorFlow.write, FlowOf.flowSnapshot_write, FlowOf.flowSnapshot_write]
  refine ⟨hnodes, hedges, fun id => ?_, fun id field => ?_⟩
  · rw [Snapshot.node?_ofValues, Snapshot.node?_ofValues, hnodes, List.find?_map]
    rfl
  · rw [isConnected, isConnected, Snapshot.inboundFields_ofValues, Snapshot.inboundFields_ofValues, hedges]

/-- In the flow that the editor writes all marks are truth values. -/
theorem EditorFlow.truthValues_write (f : EditorFlow) :
    ∀ n ∈ (flowSnapshot (f.write .wire)).nodes, ∀ out ∈ n.outputs, isTruthValue out.deleted = true := by
  rw [EditorFlow.write, FlowOf.flowSnapshot_write]
  refine forall_mem_readIndexed_map fun k n _ => ?_
  rw [n.ofValue_write]
  refine forall_mem_readIndexed_map fun j out _ => ?_
  rw [out.ofValue_write]
  rfl

/-! ### What a strict run misses in a stored flow -/

/-- One issue for each output of a node with a known type, none of which is stored with a mark. -/
def StoredNode.missingMarks (r : Registry) (n : StoredNode) : List Issue :=
  if r.contains n.type then
    n.data.outputs.map fun out => .ofField .error .invalidOutputDeleted n.id .output out.id
      ("Node " ++ n.id ++ " output " ++ out.id ++ " must have boolean isDeleted field")
  else []

section Stored

variable {r : Registry} {o : Options}

theorem filledText?_of_isFilled {s : String} (h : IsFilled s) : (Value.str s).filledText? = some s :=
  Value.filledText?_str h.1

theorem StoredNode.nodeMarks_write {n : StoredNode} (hn : n.HasIds) (index : Nat) :
    nodeMarks r o (RawNode.ofValue index (n.write .wire)) = if o.strict then n.missingMarks r else [] := by
  have hid : (Value.str n.id).filledText? = some n.id := filledText?_of_isFilled hn.id
  have hmark : ∀ k, ∀ out ∈ n.data.outputs,
      markIssues o n.id (RawOutput.ofValue k (out.write .wire)) =
        if o.strict then [.ofField .error .invalidOutputDeleted n.id .output out.id
          ("Node " ++ n.id ++ " output " ++ out.id ++ " must have boolean isDeleted field")] else [] := by
    intro k out hout
    rw [out.ofValue_write, filledText?_of_isFilled (hn.data.outputs out hout), markIssues]
    cases o.strict <;> rfl
  have hmarks : (readIndexed RawOutput.ofValue (n.data.outputs.map (StoredOutput.write .wire))).flatMap
      (markIssues o n.id) = if o.strict then n.data.outputs.map fun out =>
        .ofField .error .invalidOutputDeleted n.id .output out.id
          ("Node " ++ n.id ++ " output " ++ out.id ++ " must have boolean isDeleted field") else [] := by
    rw [flatMap_readIndexed n.data.outputs hmark]
    cases o.strict with
    | false => exact List.flatMap_eq_nil_iff.mpr fun _ _ => rfl
    | true => exact (List.map_eq_flatMap ..).symm
  have hcontract : r.checkedContract? (RawNode.ofValue index (n.write .wire)) = r.get? n.type := by
    have hfilled : n.type.isEmpty = false := Bool.eq_false_iff.mpr (mt String.isEmpty_iff.mp hn.type.1)
    rw [n.ofValue_write]
    exact Registry.checkedContract?_of_not_isVoid hfilled
  rw [nodeMarks, hcontract, n.ofValue_write, missingMarks, Registry.contains]
  simp only [NodeOf.raw, hid]
  cases r.get? n.type with
  | none => exact (ite_self _).symm
  | some c => exact hmarks

/-- What the report of a stored flow says of marks of deletion. -/
theorem StoredFlow.only_marks {f : StoredFlow} (hf : f.HasIds) {report : Report}
    (hreport : lint r o (f.write .wire) = .ok report) :
    report.only .invalidOutputDeleted = if o.strict then f.nodes.flatMap (·.missingMarks r) else [] := by
  rw [lint_eq_snapshot f.hasLists_write] at hreport
  obtain ⟨-, rfl⟩ := Snapshot.lint_eq_ok_iff.mp hreport
  have hnodes : ∀ k, ∀ n ∈ f.nodes, nodeMarks r o (RawNode.ofValue k (n.write .wire)) =
      if o.strict then n.missingMarks r else [] := fun k n hn =>
    StoredNode.nodeMarks_write (hf n hn) k
  rw [Snapshot.only_marks, StoredFlow.write, FlowOf.flowSnapshot_write]
  refine (flatMap_readIndexed f.nodes hnodes).trans ?_
  cases o.strict with
  | false => exact List.flatMap_eq_nil_iff.mpr fun _ _ => rfl
  | true => rfl

end Stored

/-! ### The two runs -/

/-- **A flow of the editor in two runs.**  A flow that was read in the editor view is linted as it is stored,
and the run over the record that the editor writes of it gives the same report, in the same order, less the
issues of marks of deletion.  Of these the run over the flow itself has none, or, if it is strict, one for
each output of a node with a known type.  So the two runs agree exactly if the run is not strict or no such
node has outputs. -/
theorem EditorFlow.lint_write (r : Registry) (o : Options) (v : Value) (f : EditorFlow)
    (hf : EditorFlow.read v = .valid f) :
    ∃ report, lint r o (Flow.editor f).storedWire = .ok report ∧
      lint r o (f.write .wire) = .ok (report.without [.invalidOutputDeleted]) ∧
      report.only .invalidOutputDeleted =
        (if o.strict then f.nodes.flatMap (·.toStored.missingMarks r) else []) ∧
      (lint r o (Flow.editor f).storedWire = lint r o (f.write .wire) ↔
        o.strict = false ∨ ∀ n ∈ f.nodes, r.contains n.type = true → n.data.outputs = []) := by
  have hids : f.kept.HasIds := EditorFlow.ensures_read v f hf
  obtain ⟨report, hkept⟩ := StoredFlow.exists_lint (r := r) (o := o) f.kept
  have hreport : lint r o (Flow.editor f).storedWire = .ok report := by
    rw [Flow.lint_storedWire]
    exact hkept
  have hwritten : lint r o (f.write .wire) = .ok (report.without [.invalidOutputDeleted]) := by
    rw [lint_eq_snapshot f.kept.hasLists_write] at hkept
    have hlists : HasLists (f.write .wire) := FlowOf.hasLists_write f
    rw [lint_eq_snapshot hlists]
    exact Snapshot.lint_of_bare f.bareOf_write f.truthValues_write hkept
  have honly : report.only .invalidOutputDeleted =
      if o.strict then f.nodes.flatMap (·.toStored.missingMarks r) else [] := by
    rw [StoredFlow.only_marks hids hkept, kept, FlowOf.map, List.flatMap_map]
  refine ⟨report, hreport, hwritten, honly, ?_⟩
  rw [hreport, hwritten, Except.ok.injEq, eq_comm, Report.without_eq_self_iff, honly]
  cases o.strict with
  | false => exact iff_of_true rfl (Or.inl rfl)
  | true =>
    rw [if_pos rfl, List.flatMap_eq_nil_iff]
    simp [StoredNode.missingMarks, EditorNode.toStored, NodeOf.map, DataOf.map]

/-- A record of the editor with one node, whose output is marked as not deleted. -/
def feedRecord : Value :=
  .record
    [("name", .str "News"),
      ("nodes", .arr
        [.record
          [("id", .str "news"), ("type", .str "rss_listener_node"),
            ("position", .record [("x", .int 0), ("y", .int 0)]),
            ("data", .record
              [("inputs", .arr
                [.record [("id", .str "route"), ("value", .str "daily"), ("isDeleted", .bool false)]]),
                ("outputs", .arr [.record [("id", .str "feeds"), ("isDeleted", .bool false)]])])]]),
      ("edges", .arr [])]

theorem feedRecord_written :
    ∃ f report, EditorFlow.read feedRecord = .valid f ∧
      lint .builtin { strict := true } (Flow.editor f).storedWire = .ok report ∧
      lint .builtin { strict := true } (f.write .wire) = .ok (report.without [.invalidOutputDeleted]) ∧
      report.only .invalidOutputDeleted = f.nodes.flatMap (·.toStored.missingMarks .builtin) := by
  have hread : (EditorFlow.read feedRecord).toOption.isSome = true := by decide +kernel
  cases h : EditorFlow.read feedRecord with
  | valid f =>
    obtain ⟨report, hstored, hwritten, honly, -⟩ :=
      EditorFlow.lint_write .builtin { strict := true } feedRecord f h
    exact ⟨f, report, rfl, hstored, hwritten, honly⟩
  | faulty ps =>
    rw [h] at hread
    cases hread

/-- The flow itself is reported for a missing mark, and the record that the editor writes of it is not. -/
theorem feedRecord_reported :
    ∃ f, EditorFlow.read feedRecord = .valid f ∧
      (lint .builtin { mode := .node, strict := true } (Flow.editor f).storedWire).map (·.map (·.code)) =
        .ok [.invalidOutputDeleted] ∧
      (lint .builtin { mode := .node, strict := true } (f.write .wire)).map (·.map (·.code)) = .ok [] := by
  have hruns : ((EditorFlow.read feedRecord).toOption.map fun f =>
      ((lint .builtin { mode := .node, strict := true } (Flow.editor f).storedWire).map (·.map (·.code)),
        (lint .builtin { mode := .node, strict := true } (f.write .wire)).map (·.map (·.code)))) =
      some (.ok [.invalidOutputDeleted], .ok []) := by decide +kernel
  cases h : EditorFlow.read feedRecord with
  | valid f =>
    rw [h] at hruns
    have hpair := Option.some.inj hruns
    exact ⟨f, rfl, congrArg Prod.fst hpair, congrArg Prod.snd hpair⟩
  | faulty ps =>
    rw [h] at hruns
    cases hruns

end WorkflowCheck
