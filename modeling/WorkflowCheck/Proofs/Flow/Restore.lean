import WorkflowCheck.Proofs.Flow.Tidy

/-!
# Opening what was saved from the editor

A flow of the editor that is saved with all its state is told from a stored one by its nodes alone, each
of which has a class name on the wire.  So a flow with nodes is restored as it was, while one without any
is taken for a stored flow, and its edges come back drawn the default way (`restoreFlow_write`).
-/

namespace WorkflowCheck

open Decode

/-! ### Fields on the wire -/

section Fields

variable {ν ε : Type} {writeNode : ν → Value} {writeEdge : ε → Value}

theorem FlowOf.field_nodes_write (f : FlowOf ν ε) :
    (f.write .wire writeNode writeEdge).field "nodes" = writeList writeNode f.nodes :=
  field_of_entry (n := .same "nodes") rfl (by simp [FieldName.same]) (by simp)

theorem FlowOf.field_edges_write (f : FlowOf ν ε) :
    (f.write .wire writeNode writeEdge).field "edges" = writeList writeEdge f.edges :=
  field_of_entry (n := .same "edges") rfl (by simp [FieldName.same]) (by simp)

/-- A written flow is an object with two lists. -/
theorem FlowOf.isList_write (f : FlowOf ν ε) :
    (f.write .wire writeNode writeEdge).isObject = true ∧
      ((f.write .wire writeNode writeEdge).field "nodes").isList = true ∧
      ((f.write .wire writeNode writeEdge).field "edges").isList = true := by
  rw [f.field_nodes_write, f.field_edges_write]
  exact ⟨rfl, rfl, rfl⟩

end Fields

/-- A node of the editor has its class name on the wire, be it empty. -/
theorem EditorNode.looksEdited_write (n : EditorNode) : looksEdited (n.write .wire) = true := by
  have hfound : (n.write .wire).get? "className" = some (.str n.className) :=
    get?_of_entry (n := ⟨"className", "class_name"⟩) (rfl : n.write .wire = _)
      (by simp [NodeOf.entries, FieldName.same]) (by simp) rfl
  rw [looksEdited, Value.has, Value.has, hfound, Option.isSome_some, Bool.or_true]

/-! ### Restoring -/

/-- A written flow is read in the editor view if it has a node, and in the stored view if it has none. -/
theorem restoreFlow_write_eq (f : EditorFlow) :
    restoreFlow (f.write .wire) =
      match if f.nodes.isEmpty then (StoredFlow.read (f.write .wire)).map StoredFlow.toEditor
        else EditorFlow.read (f.write .wire) with
      | .valid g => .ok g
      | .faulty ps => .error (.faulty ps) := by
  have hedited : ((f.write .wire).field "nodes").items.any looksEdited = !f.nodes.isEmpty := by
    rw [EditorFlow.write, FlowOf.field_nodes_write]
    show (f.nodes.map (EditorNode.write .wire)).any looksEdited = !f.nodes.isEmpty
    cases f.nodes with
    | nil => rfl
    | cons n ns => rw [List.map_cons, List.any_cons, n.looksEdited_write, Bool.true_or]; rfl
  obtain ⟨hobject, hnodes, hedges⟩ : (f.write .wire).isObject = true ∧
    ((f.write .wire).field "nodes").isList = true ∧ ((f.write .wire).field "edges").isList = true :=
    FlowOf.isList_write f
  rw [restoreFlow, hobject, hnodes, hedges, hedited]
  cases f.nodes.isEmpty <;> rfl

theorem restoreFlow_write_of_nodes {f : EditorFlow} (hf : f.kept.HasIds) (hnodes : f.nodes ≠ []) :
    restoreFlow (f.write .wire) = .ok f := by
  have hfull : f.nodes.isEmpty = false := List.isEmpty_eq_false_iff.mpr hnodes
  rw [restoreFlow_write_eq, hfull, EditorFlow.read_write .wire hf]
  rfl

/-- The flow with every edge drawn the default way. -/
def EditorFlow.undrawn (f : EditorFlow) : EditorFlow :=
  { f with edges := f.edges.map fun e => e.toStoredEdge.toEditor }

theorem restoreFlow_write_of_no_nodes {f : EditorFlow} (hf : f.kept.HasIds) (hnodes : f.nodes = []) :
    restoreFlow (f.write .wire) = .ok f.undrawn := by
  have hempty : f.nodes.isEmpty = true := List.isEmpty_iff.mpr hnodes
  have hstored : StoredFlow.read (f.write .wire) = .valid f.kept :=
    EditorFlow.readsAs _ f (EditorFlow.read_write .wire hf)
  have hopened : f.kept.toEditor = f.undrawn := by
    obtain ⟨name, thumbnail, nodes, edges⟩ := f
    subst hnodes
    simp [EditorFlow.kept, EditorFlow.undrawn, StoredFlow.toEditor, openFlow, FlowOf.map]
  rw [restoreFlow_write_eq, hempty, hstored, ← hopened]
  rfl

/-- An edge drawn the default way. -/
def EditorEdge.IsDefault (e : EditorEdge) : Prop :=
  e.style = .default ∧ e.animated = false

theorem EditorEdge.toEditor_toStoredEdge_eq_iff {e : EditorEdge} :
    e.toStoredEdge.toEditor = e ↔ e.IsDefault := by
  obtain ⟨stored, style, animated⟩ := e
  simp [StoredEdge.toEditor, IsDefault, eq_comm]

theorem EditorFlow.undrawn_eq_self_iff {f : EditorFlow} :
    f.undrawn = f ↔ ∀ e ∈ f.edges, e.IsDefault := by
  have hmap : f.undrawn = f.map id fun e => e.toStoredEdge.toEditor := by
    rw [undrawn, FlowOf.map, List.map_id]
  rw [hmap, FlowOf.map_eq_self_iff]
  simp [EditorEdge.toEditor_toStoredEdge_eq_iff]

/-- An edge that is the same on the wire as with its drawing reset is drawn the default way. -/
theorem EditorEdge.isDefault_of_same {e : EditorEdge}
    (h : (e.toStoredEdge.toEditor.write .wire).same (e.write .wire) = true) : e.IsDefault := by
  have hstyle : (writeWord EdgeStyle.words .default).same (writeWord EdgeStyle.words e.style) = true :=
    same_of_same_record (n := .same "type") h (by simp [StoredEdge.entries, FieldName.same])
      (by simp [StoredEdge.toEditor]) (by simp) rfl
  have hanimated : (Value.bool false).same (.bool e.animated) = true :=
    same_of_same_record (n := .same "animated") h (by simp [StoredEdge.entries, FieldName.same])
      (by simp [StoredEdge.toEditor]) (by simp) rfl
  constructor
  · revert hstyle
    cases e.style <;> decide
  · revert hanimated
    cases e.animated <;> decide +kernel

/-- A saved flow of the editor is restored, exactly as it was if it has a node.  Without nodes it comes
back as it was on the wire exactly if every edge is drawn the default way, and otherwise it does not even
come back the same when the order of fields does not count. -/
theorem restoreFlow_write (f : EditorFlow) (v : Value) (hf : EditorFlow.read v = .valid f) :
    ∃ g, restoreFlow (f.write .wire) = .ok g ∧ (f.nodes ≠ [] → g = f) ∧ (f.nodes = [] → g = f.undrawn) ∧
      (g.write .wire = f.write .wire ↔ f.nodes ≠ [] ∨ ∀ e ∈ f.edges, e.IsDefault) ∧
      ((g.write .wire).same (f.write .wire) = true → f.nodes ≠ [] ∨ ∀ e ∈ f.edges, e.IsDefault) := by
  have hids : f.kept.HasIds := EditorFlow.ensures_read v f hf
  by_cases hnodes : f.nodes = []
  · refine ⟨f.undrawn, restoreFlow_write_of_no_nodes hids hnodes, fun h => absurd hnodes h, fun _ => rfl,
      ?equal, ?same⟩
    case equal =>
      rw [or_iff_right (not_not_intro hnodes), ← EditorFlow.undrawn_eq_self_iff]
      constructor
      · intro hwire
        have hundrawn : f.undrawn.kept.HasIds := hids
        have hread := EditorFlow.read_write .wire hundrawn
        rw [hwire, EditorFlow.read_write .wire hids] at hread
        injection hread with hself
        exact hself.symm
      · exact congrArg (EditorFlow.write .wire)
    case same =>
      intro hsame
      have hedges : (writeList (EditorEdge.write .wire) (f.edges.map fun e => e.toStoredEdge.toEditor)).same
          (writeList (EditorEdge.write .wire) (f.edges.map id)) = true := by
        rw [List.map_id]
        exact same_of_same_record (n := .same "edges") hsame (by simp [FieldName.same])
          (by simp [EditorFlow.undrawn]) (by simp) rfl
      exact Or.inr fun e he => EditorEdge.isDefault_of_same (same_of_same_writeList hedges e he)
  · exact ⟨f, restoreFlow_write_of_nodes hids hnodes, fun _ => rfl, fun h => absurd h hnodes,
      iff_of_true rfl (Or.inl hnodes), fun _ => Or.inl hnodes⟩

/-- A flow of one edge that is drawn in its own way, between nodes that are not there. -/
def strayFlow : EditorFlow :=
  ⟨"", none, [], [⟨⟨"", "a", "b", "x", "y"⟩, .step, true⟩]⟩

theorem strayFlow_restored :
    ∃ g, restoreFlow (strayFlow.write .wire) = .ok g ∧ (strayFlow.nodes ≠ [] → g = strayFlow) ∧
      (strayFlow.nodes = [] → g = strayFlow.undrawn) ∧
      (g.write .wire = strayFlow.write .wire ↔
        strayFlow.nodes ≠ [] ∨ ∀ e ∈ strayFlow.edges, e.IsDefault) ∧
      ((g.write .wire).same (strayFlow.write .wire) = true →
        strayFlow.nodes ≠ [] ∨ ∀ e ∈ strayFlow.edges, e.IsDefault) :=
  restoreFlow_write strayFlow (strayFlow.write .wire) rfl

/-- The drawing of its edge is lost when it is saved and restored. -/
theorem strayFlow_redrawn :
    EditorFlow.read (strayFlow.write .wire) = .valid strayFlow ∧
      restoreFlow (strayFlow.write .wire) = .ok strayFlow.undrawn ∧
      (strayFlow.undrawn.write .wire).same (strayFlow.write .wire) = false :=
  ⟨rfl, rfl, rfl⟩

end WorkflowCheck
