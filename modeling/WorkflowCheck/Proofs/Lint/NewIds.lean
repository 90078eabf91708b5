import WorkflowCheck.Proofs.Graph.Renamed
import WorkflowCheck.Proofs.Lint.Raw
import WorkflowCheck.Proofs.Value.Change

/-!
# Flows under new ids

`renameFlow` gives the nodes of a raw flow new ids, different ones for different ones, and the edges the new
ids of their ends.  What is read of the flow is the same but for the ids, and its snapshot finds by a new id
what the old snapshot finds by the old one (`renamedBy_flowSnapshot`).
-/

namespace WorkflowCheck

open Function (Injective)

/-! ### New ids -/

/-- A text that is not empty. -/
abbrev FilledText : Type :=
  { s : String // s ≠ "" }

/-- The new text for a text; an empty one stays. -/
def renamed (ρ : FilledText ↪ FilledText) (s : String) : String :=
  if h : s = "" then s else (ρ ⟨s, h⟩).val

section Texts

variable {ρ : FilledText ↪ FilledText} {s t : String}

theorem renamed_of_ne (h : s ≠ "") : renamed ρ s = (ρ ⟨s, h⟩).val :=
  dif_neg h

theorem renamed_eq_empty_iff : renamed ρ s = "" ↔ s = "" := by
  by_cases h : s = ""
  · exact iff_of_true ((dif_pos h).trans h) h
  · rw [renamed_of_ne h]
    exact iff_of_false (ρ ⟨s, h⟩).property h

theorem renamed_injective : Injective (renamed ρ) := by
  intro s t h
  by_cases hs : s = ""
  · exact hs.trans (renamed_eq_empty_iff.mp (h.symm.trans (renamed_eq_empty_iff.mpr hs))).symm
  · have ht : t ≠ "" := fun ht => hs (renamed_eq_empty_iff.mp (h.trans (renamed_eq_empty_iff.mpr ht)))
    rw [renamed_of_ne hs, renamed_of_ne ht] at h
    exact congrArg Subtype.val (ρ.injective (Subtype.val_injective h))

end Texts

/-! ### Raw flows under new ids -/

section Values

variable (ρ : FilledText ↪ FilledText)

/-- The value with a new text, if it is one. -/
def renameText : Value → Value
  | .str s => .str (renamed ρ s)
  | v => v

/-- The node with a new id. -/
def renameNode : Value → Value :=
  .mapField "id" (renameText ρ)

/-- The edge with a new source and a new target. -/
def renameEdge (v : Value) : Value :=
  (v.mapField "source" (renameText ρ)).mapField "target" (renameText ρ)

/-- The flow with new ids throughout. -/
def renameFlow (v : Value) : Value :=
  (v.mapField "nodes" (.mapItems (renameNode ρ))).mapField "edges" (.mapItems (renameEdge ρ))

end Values

/-- The node under a new id. -/
def RawNode.rename (f : String → String) (n : RawNode) : RawNode :=
  { n with id := n.id.map f }

/-- The edge between new ids. -/
def RawEdge.rename (f : String → String) (e : RawEdge) : RawEdge :=
  { e with source := e.source.map f, target := e.target.map f }

section Reading

variable {ρ : FilledText ↪ FilledText} {v flow : Value}

theorem filledText?_renameText : (renameText ρ v).filledText? = v.filledText?.map (renamed ρ) := by
  cases v with
  | str s =>
    by_cases h : s = ""
    · subst h
      rfl
    · rw [Value.filledText?_str h, renameText, Value.filledText?_str (mt renamed_eq_empty_iff.mp h)]
      rfl
  | _ => rfl

theorem filledText?_mapField {name : String} :
    ((v.mapField name (renameText ρ)).field name).filledText? =
      (v.field name).filledText?.map (renamed ρ) := by
  rw [Value.field_mapField_self rfl, filledText?_renameText]

theorem field_renameNode {name : String} (h : name ≠ "id") :
    (renameNode ρ v).field name = v.field name :=
  Value.field_mapField_of_ne h

theorem shapeOf_renameNode : RawNode.shapeOf (renameNode ρ v) = RawNode.shapeOf v := by
  have hhas : ∀ {name : String}, name ≠ "id" → (renameNode ρ v).has name = v.has name := fun h => by
    rw [Value.has, Value.has, renameNode, Value.get?_mapField_of_ne h]
  rw [RawNode.shapeOf, RawNode.shapeOf, field_renameNode (by decide), hhas (by decide), hhas (by decide)]

/-- A node has its fields where it had them. -/
theorem field_holder_renameNode {name : String} (h : name ≠ "id") :
    (RawNode.holder (renameNode ρ v)).field name = (RawNode.holder v).field name := by
  rw [RawNode.holder, RawNode.holder, shapeOf_renameNode]
  cases RawNode.shapeOf v with
  | flat => exact field_renameNode h
  | nested => rw [field_renameNode (by decide)]

theorem ofValue_renameNode (i : Nat) :
    RawNode.ofValue i (renameNode ρ v) = (RawNode.ofValue i v).rename (renamed ρ) := by
  have hid : ((renameNode ρ v).field "id").filledText? = (v.field "id").filledText?.map (renamed ρ) :=
    filledText?_mapField
  have hversion : (renameNode ρ v).get? "version" = v.get? "version" :=
    Value.get?_mapField_of_ne (by decide)
  rw [RawNode.ofValue, hid, hversion, shapeOf_renameNode, field_renameNode (by decide),
    field_renameNode (by decide), field_holder_renameNode (by decide), field_holder_renameNode (by decide)]
  rfl

theorem ofValue_renameEdge (i : Nat) :
    RawEdge.ofValue i (renameEdge ρ v) = (RawEdge.ofValue i v).rename (renamed ρ) := by
  have hfield : ∀ {name : String}, name ≠ "source" → name ≠ "target" →
      (renameEdge ρ v).field name = v.field name := fun hsource htarget => by
    rw [renameEdge, Value.field_mapField_of_ne htarget, Value.field_mapField_of_ne hsource]
  have hsource : ((renameEdge ρ v).field "source").filledText? =
      (v.field "source").filledText?.map (renamed ρ) := by
    rw [renameEdge, Value.field_mapField_of_ne (by decide), filledText?_mapField]
  have htarget : ((renameEdge ρ v).field "target").filledText? =
      (v.field "target").filledText?.map (renamed ρ) := by
    rw [renameEdge, filledText?_mapField, Value.field_mapField_of_ne (by decide)]
  rw [RawEdge.ofValue, hsource, htarget, hfield (by decide) (by decide), hfield (by decide) (by decide),
    hfield (by decide) (by decide)]
  rfl

theorem field_nodes_renameFlow :
    (renameFlow ρ flow).field "nodes" = (flow.field "nodes").mapItems (renameNode ρ) := by
  rw [renameFlow, Value.field_mapField_of_ne (by decide), Value.field_mapField_self rfl]

theorem field_edges_renameFlow :
    (renameFlow ρ flow).field "edges" = (flow.field "edges").mapItems (renameEdge ρ) := by
  rw [renameFlow, Value.field_mapField_self rfl, Value.field_mapField_of_ne (by decide)]

theorem hasLists_renameFlow : HasLists (renameFlow ρ flow) ↔ HasLists flow := by
  rw [HasLists, HasLists, field_nodes_renameFlow, field_edges_renameFlow, Value.isArray_mapItems,
    Value.isArray_mapItems, renameFlow, Value.isObject_mapField, Value.isObject_mapField]

/-- What is no flow is none under new ids, and for the same reason. -/
theorem ofValue_renameFlow (h : ¬ HasLists flow) :
    RawFlow.ofValue (renameFlow ρ flow) = RawFlow.ofValue flow := by
  refine RawFlow.ofValue_congr ?null ?object ?nodes ?edges h
  case null => rw [renameFlow, Value.isNull_mapField, Value.isNull_mapField]
  case object => rw [renameFlow, Value.isObject_mapField, Value.isObject_mapField]
  case nodes => rw [field_nodes_renameFlow, Value.isArray_mapItems]
  case edges => rw [field_edges_renameFlow, Value.isArray_mapItems]

end Reading

/-! ### Snapshots under new ids -/

/-- The second snapshot has the nodes and edges of the first one under new ids, and finds by a new id what the
first one finds by the old one. -/
structure Snapshot.RenamedBy (f : String → String) (s s' : Snapshot) : Prop where
  nodes : s'.nodes = s.nodes.map (RawNode.rename f)
  edges : s'.edges = s.edges.map (RawEdge.rename f)
  found : ∀ id, s'.node? (f id) = (s.node? id).map (RawNode.rename f)
  fed : ∀ id, s'.inboundFields (f id) = s.inboundFields id

section Snapshots

variable {f : String → String} {s s' : Snapshot}

theorem option_map_eq_some_iff (hf : Injective f) {a : Option String} {b : String} :
    a.map f = some (f b) ↔ a = some b := by
  rw [← Option.map_some, (Option.map_injective hf).eq_iff]

theorem fieldInto_rename (hf : Injective f) (id : String) (e : RawEdge) :
    Snapshot.fieldInto (f id) (e.rename f) = Snapshot.fieldInto id e :=
  ite_congr (propext (option_map_eq_some_iff hf)) (fun _ => rfl) fun _ => rfl

theorem targetFrom_rename (hf : Injective f) (id : String) (e : RawEdge) :
    Snapshot.targetFrom (f id) (e.rename f) = (Snapshot.targetFrom id e).map f := by
  rw [Snapshot.targetFrom, Snapshot.targetFrom, apply_ite (Option.map f)]
  exact ite_congr (propext (option_map_eq_some_iff hf)) (fun _ => rfl) fun _ => rfl

theorem Snapshot.RenamedBy.adjacency (hf : Injective f) (h : s.RenamedBy f s') :
    s.adjacency.RenamedBy f s'.adjacency := by
  intro id
  rw [successors_adjacency, successors_adjacency, h.edges, List.filterMap_map, List.map_filterMap]
  exact List.filterMap_congr fun e _ => targetFrom_rename hf id e

theorem Snapshot.RenamedBy.nodeIds (h : s.RenamedBy f s') :
    s'.nodes.filterMap (·.id) = (s.nodes.filterMap (·.id)).map f := by
  rw [h.nodes, List.filterMap_map, List.map_filterMap]
  rfl

theorem Snapshot.RenamedBy.connectedIds (h : s.RenamedBy f s') :
    s'.connectedIds = s.connectedIds.map f := by
  rw [Snapshot.connectedIds, Snapshot.connectedIds, h.edges, List.flatMap_map, List.map_flatMap]
  refine List.flatMap_congr fun e _ => ?_
  rw [List.map_append, ← Option.toList_map, ← Option.toList_map]
  rfl

/-- The snapshot of a flow under new ids. -/
theorem renamedBy_flowSnapshot {ρ : FilledText ↪ FilledText} {flow : Value} :
    (flowSnapshot flow).RenamedBy (renamed ρ) (flowSnapshot (renameFlow ρ flow)) := by
  have hlist : flowNodes (renameFlow ρ flow) = (flowNodes flow).map (renameNode ρ) := by
    rw [flowNodes, field_nodes_renameFlow, Value.items_mapItems, flowNodes]
  have hlist' : flowEdges (renameFlow ρ flow) = (flowEdges flow).map (renameEdge ρ) := by
    rw [flowEdges, field_edges_renameFlow, Value.items_mapItems, flowEdges]
  have hnodes : readIndexed RawNode.ofValue (flowNodes (renameFlow ρ flow)) =
      (readIndexed RawNode.ofValue (flowNodes flow)).map (RawNode.rename (renamed ρ)) := by
    rw [hlist, readIndexed_map_eq_map (f := renameNode ρ) (g := id) fun i _ => ofValue_renameNode i,
      List.map_id]
  have hedges : readIndexed RawEdge.ofValue (flowEdges (renameFlow ρ flow)) =
      (readIndexed RawEdge.ofValue (flowEdges flow)).map (RawEdge.rename (renamed ρ)) := by
    rw [hlist', readIndexed_map_eq_map (f := renameEdge ρ) (g := id) fun i _ => ofValue_renameEdge i,
      List.map_id]
  refine ⟨hnodes, hedges, fun id => ?found, fun id => ?fed⟩
  case found =>
    rw [flowSnapshot, flowSnapshot, Snapshot.node?_ofValues, Snapshot.node?_ofValues, hnodes, List.find?_map]
    congr 1
    refine congrArg (List.find? · _) (funext fun n => ?_)
    exact decide_eq_decide.mpr (option_map_eq_some_iff renamed_injective)
  case fed =>
    rw [flowSnapshot, flowSnapshot, Snapshot.inboundFields_ofValues, Snapshot.inboundFields_ofValues, hedges,
      List.filterMap_map]
    exact List.filterMap_congr fun e _ => fieldInto_rename renamed_injective id e

end Snapshots

end WorkflowCheck
