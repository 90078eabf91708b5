import WorkflowCheck.Flow.Content
import WorkflowCheck.Proofs.Flow.Plain
import WorkflowCheck.Proofs.Flow.Projection

/-!
# Changes of the editor's own state

What the editor keeps for itself can change in five ways, each at a place in the flow (`CanvasChange`).
No run of such changes touches what is stored (`EditorFlow.kept_run`).  Still, a stored flow that is
opened has the content that it had exactly if no input has an empty list of options, since comparing drops
such a list on the side of the editor only (`sameContent_run_iff`).
-/

namespace WorkflowCheck

/-- A change at one place that a function does not see. -/
theorem map_modify_of_apply_eq {α β : Type} {f : α → α} {g : α → β} (h : ∀ a, g (f a) = g a) :
    ∀ (as : List α) (place : Nat), (as.modify place f).map g = as.map g
  | [], _ => by simp
  | a :: as, 0 => by simp [h]
  | a :: as, place + 1 => by simp [map_modify_of_apply_eq h as place]

/-! ### Changes -/

/-- A change of the state of the canvas at a node, of the state of what a node holds, of the marks of an
input or an output, or of the way an edge is drawn.  Where there is nothing at the place, nothing
changes. -/
inductive CanvasChange where
  | node (place : Nat) (className : String) (width height : Option Double) (selected dragging : Bool)
      (absolutePosition : Option Position)
  | data (place : Nat) (id : String) (edges : List EditorEdge) (menuItems : List MenuItem)
      (deepEdit executing stopping : Bool) (signals : List HandleSignal)
  | input (node place : Nat) (deleted disabled : Bool) (load : LoadState)
  | output (node place : Nat) (deleted : Bool)
  | edge (place : Nat) (style : EdgeStyle) (animated : Bool)

namespace EditorFlow

/-- The flow after a change. -/
def change (f : EditorFlow) : CanvasChange → EditorFlow
  | .node place className width height selected dragging absolutePosition =>
    { f with nodes := f.nodes.modify place fun n =>
        { n with className, width, height, selected, dragging, absolutePosition } }
  | .data place id edges menuItems deepEdit executing stopping signals =>
    { f with nodes := f.nodes.modify place fun n =>
        { n with data :=
          { n.data with id, edges, menuItems, deepEdit, executing, stopping, signals } } }
  | .input node place deleted disabled load =>
    { f with nodes := f.nodes.modify node fun n =>
        { n with data :=
          { n.data with
            inputs := n.data.inputs.modify place fun i => { i with deleted, disabled, load } } } }
  | .output node place deleted =>
    { f with nodes := f.nodes.modify node fun n =>
        { n with data :=
          { n.data with
            outputs := n.data.outputs.modify place fun o => { o with deleted } } } }
  | .edge place style animated =>
    { f with edges := f.edges.modify place fun e => { e with style, animated } }

/-- The flow after a run of changes. -/
def run (f : EditorFlow) (cs : List CanvasChange) : EditorFlow :=
  cs.foldl change f

/-! ### What is stored -/

theorem kept_modify_nodes {g : EditorNode → EditorNode} (f : EditorFlow) (place : Nat)
    (h : ∀ n, (g n).toStored = n.toStored) :
    EditorFlow.kept { f with nodes := f.nodes.modify place g } = f.kept := by
  rw [kept, kept, FlowOf.map, FlowOf.map, map_modify_of_apply_eq h]

/-- A change leaves what is stored. -/
theorem kept_change (f : EditorFlow) (c : CanvasChange) : (f.change c).kept = f.kept := by
  cases c with
  | node place => exact f.kept_modify_nodes place fun _ => rfl
  | data place => exact f.kept_modify_nodes place fun _ => rfl
  | input node place =>
    refine f.kept_modify_nodes node fun n => ?_
    simp only [EditorNode.toStored, NodeOf.map, DataOf.map]
    rw [map_modify_of_apply_eq]
    exact fun _ => rfl
  | output node place =>
    refine f.kept_modify_nodes node fun n => ?_
    simp only [EditorNode.toStored, NodeOf.map, DataOf.map]
    rw [map_modify_of_apply_eq]
    exact fun _ => rfl
  | edge place =>
    rw [change, kept, kept, FlowOf.map, FlowOf.map, map_modify_of_apply_eq]
    exact fun _ => rfl

theorem kept_run (f : EditorFlow) (cs : List CanvasChange) : (f.run cs).kept = f.kept := by
  induction cs generalizing f with
  | nil => rfl
  | cons c cs ih => exact (ih (f.change c)).trans (f.kept_change c)

end EditorFlow

/-! ### Comparing -/

/-- A plain stored flow that is opened, and then changed in what is the editor's own, has its old content
exactly if no input has an empty list of options, whichever of the two flows is the first. -/
theorem sameContent_run_iff (e : StoredFlow) (he : e.IsPlain) (cs : List CanvasChange) :
    (Flow.sameContent (.editor (e.toEditor.run cs)) (.stored e) = true ↔ e.IsTidy) ∧
      (Flow.sameContent (.stored e) (.editor (e.toEditor.run cs)) = true ↔ e.IsTidy) := by
  have hkept : (e.toEditor.run cs).kept = e :=
    (EditorFlow.kept_run e.toEditor cs).trans (Flow.kept_toEditor (.stored e))
  have hwire : (Flow.editor (e.toEditor.run cs)).storedWire = e.tidied.write .wire := by
    show (e.toEditor.run cs).kept.tidied.write .wire = e.tidied.write .wire
    rw [hkept]
  have hstored : (Flow.stored e).storedWire = e.write .wire := rfl
  rw [Flow.sameContent, Flow.sameContent, hwire, hstored]
  constructor
  · refine ⟨fun h => StoredFlow.isTidy_of_same (Or.inl h), fun htidy => ?_⟩
    rw [StoredFlow.tidied_eq_self_iff.mpr htidy]
    exact (he.write .wire).same_self
  · refine ⟨fun h => StoredFlow.isTidy_of_same (Or.inr h), fun htidy => ?_⟩
    rw [StoredFlow.tidied_eq_self_iff.mpr htidy]
    exact (he.write .wire).same_self

/-- A stored flow of one node, whose input has an empty list of options. -/
def listedFlow : StoredFlow :=
  let input : StoredInput :=
    { id := "chain", title := "", type := .text, control := .select, required := false, placeholder := "",
      handle := none, value := .null, choices := some [], min := none, max := none }
  let node : StoredNode :=
    ⟨"vault", "vault_node", ⟨.finite false 0, .finite false 0⟩, none, ⟨"", "", .core, [input], []⟩⟩
  ⟨"Vaults", none, [node], []⟩

theorem listedFlow_isPlain : listedFlow.IsPlain := by
  intro n hn
  cases List.mem_singleton.mp hn
  refine ⟨⟨nofun, nofun⟩, fun i hi => ?_, List.forall_mem_nil _⟩
  cases List.mem_singleton.mp hi
  exact ⟨nofun, .null, nofun, nofun⟩

theorem listedFlow_run :
    listedFlow.IsPlain ∧
      (Flow.sameContent (.editor (listedFlow.toEditor.run
        [.node 0 "wide" (some (.infinite false)) none true false none, .input 0 0 true true .initial]))
        (.stored listedFlow) = true ↔ listedFlow.IsTidy) ∧
      (Flow.sameContent (.stored listedFlow) (.editor (listedFlow.toEditor.run
        [.node 0 "wide" (some (.infinite false)) none true false none, .input 0 0 true true .initial])) =
          true ↔ listedFlow.IsTidy) :=
  ⟨listedFlow_isPlain, sameContent_run_iff listedFlow listedFlow_isPlain _⟩

/-- Merely opening the flow counts as a change of its content. -/
theorem listedFlow_changed :
    StoredFlow.read (listedFlow.write .wire) = .valid listedFlow ∧ listedFlow.IsPlain ∧
      Flow.sameContent (.editor listedFlow.toEditor) (.stored listedFlow) = false ∧
      Flow.sameContent (.stored listedFlow) (.editor listedFlow.toEditor) = false :=
  ⟨rfl, listedFlow_isPlain, by decide +kernel, by decide +kernel⟩

end WorkflowCheck
