import WorkflowCheck.Proofs.Lint.Alike
import WorkflowCheck.Proofs.Lint.Raw
import WorkflowCheck.Proofs.Value.Change
import WorkflowCheck.Registry.Builtin

/-!
# Two shapes of nodes

A node has its inputs and outputs at the top or in its data, and which of them it has there is all that
decides between the two.  `Nests` says that one node is another one with its fields moved into data of their
own, and `nestFields` moves them.  Both are read as the same node but for the shape
(`Nests.flattened_ofValue`), no rule looks at the shape, and so a run ends the same whichever nodes of a flow
have their fields moved (`lint_nestsNodes`).
-/

namespace WorkflowCheck

/-! ### Fields that move -/

/-- Whether a field is one that moves. -/
def isHeldKey (k : Key) : Bool :=
  k == .str "inputs" || k == .str "outputs"

/-- The node with its inputs and outputs in data of their own, if it has any of them at the top.  What data it
had is gone. -/
def nestFields (v : Value) : Value :=
  match v.opened with
  | .obj fields =>
    if v.has "inputs" || v.has "outputs" then
      .obj (Table.put (.str "data") (.obj (fields.filter fun e => isHeldKey e.1))
        (fields.filter fun e => !isHeldKey e.1))
    else v
  | _ => v

/-- The flow with the fields of some nodes moved, by their places. -/
def nestNodes (picked : Nat → Bool) : Value → Value :=
  .mapField "nodes" (.mapIdxItems fun k v => if picked k then nestFields v else v)

/-- The first value has inputs or outputs at the top, and the second one has them in its data, which holds
nothing else, and is otherwise the same. -/
structure Nests (v w : Value) : Prop where
  held : v.has "inputs" = true ∨ v.has "outputs" = true
  inputs : w.get? "inputs" = none
  outputs : w.get? "outputs" = none
  data : ∀ name, (w.field "data").get? name =
    if name = "inputs" ∨ name = "outputs" then v.get? name else none
  rest : ∀ name, name ≠ "inputs" → name ≠ "outputs" → name ≠ "data" → w.get? name = v.get? name

/-- The second flow is the first one with the fields of some nodes moved. -/
structure NestsNodes (flow flow' : Value) : Prop where
  null : flow'.isNull = flow.isNull
  object : flow'.isObject = flow.isObject
  array : (flow'.field "nodes").isArray = (flow.field "nodes").isArray
  nodes : List.Forall₂ (fun v w => w = v ∨ Nests v w) (flowNodes flow) (flowNodes flow')
  edges : flow'.field "edges" = flow.field "edges"

section Moving

variable {v w flow flow' : Value} {picked : Nat → Bool}

/-- Only an object has fields. -/
theorem exists_fields_of_has {name : String} (h : v.has name = true) :
    ∃ fields, v.opened = .obj fields ∧ ∀ name, v.get? name = Table.get? (Key.str name) fields := by
  unfold Value.has Value.get? at h
  unfold Value.get?
  cases hv : v.opened with
  | obj fields => exact ⟨fields, rfl, fun _ => rfl⟩
  | _ =>
    simp only [hv] at h
    cases h

theorem isHeldKey_iff {name : String} : isHeldKey (.str name) = true ↔ name = "inputs" ∨ name = "outputs" := by
  simp [isHeldKey]

theorem nests_nestFields (h : v.has "inputs" = true ∨ v.has "outputs" = true) : Nests v (nestFields v) := by
  obtain ⟨fields, hfields, hget⟩ : ∃ fields, v.opened = .obj fields ∧
      ∀ name, v.get? name = Table.get? (Key.str name) fields := by
    rcases h with h | h
    · exact exists_fields_of_has h
    · exact exists_fields_of_has h
  have hnest : nestFields v = .obj (Table.put (.str "data") (.obj (fields.filter fun e => isHeldKey e.1))
      (fields.filter fun e => !isHeldKey e.1)) := by
    rw [nestFields, hfields]
    exact if_pos (Bool.or_eq_true_iff.mpr h)
  have hdata : (nestFields v).field "data" = .obj (fields.filter fun e => isHeldKey e.1) := by
    rw [Value.field, hnest]
    show (Table.get? (Key.str "data") (Table.alter _ _ _)).getD _ = _
    rw [Table.get?_alter_self, Option.getD_some]
  have hother : ∀ name, name ≠ "data" → (nestFields v).get? name =
      if isHeldKey (.str name) then none else v.get? name := by
    intro name hname
    rw [hnest, hget]
    show Table.get? (Key.str name) (Table.alter _ _ _) = _
    rw [Table.get?_alter_of_ne (by simpa using hname.symm), Table.get?_filter_keys fun k => !isHeldKey k]
    cases isHeldKey (.str name) <;> rfl
  refine ⟨h, hother "inputs" (by decide), hother "outputs" (by decide), fun name => ?data,
    fun name hinputs houtputs hname => ?rest⟩
  case data =>
    rw [hdata, hget, ← ite_congr (propext isHeldKey_iff) (fun _ => rfl) fun _ => rfl]
    exact Table.get?_filter_keys isHeldKey fields
  case rest =>
    rw [hother name hname, if_neg]
    rw [isHeldKey_iff]
    exact not_or.mpr ⟨hinputs, houtputs⟩

/-- A value without such fields stays. -/
theorem nestFields_eq_self (h : ¬ (v.has "inputs" = true ∨ v.has "outputs" = true)) : nestFields v = v := by
  rw [nestFields]
  split
  · exact if_neg (mt Bool.or_eq_true_iff.mp h)
  · rfl

theorem nestsNodes_nestNodes (picked : Nat → Bool) (flow : Value) :
    NestsNodes flow (nestNodes picked flow) := by
  have hnodes : (nestNodes picked flow).field "nodes" =
      (flow.field "nodes").mapIdxItems fun k v => if picked k then nestFields v else v :=
    Value.field_mapField_self rfl
  refine ⟨Value.isNull_mapField, Value.isObject_mapField, ?array, ?nodes,
    Value.field_mapField_of_ne (by decide)⟩
  case array => rw [hnodes, Value.isArray_mapIdxItems]
  case nodes =>
    rw [flowNodes, flowNodes, hnodes, Value.items_mapIdxItems, List.forall₂_iff_get]
    refine ⟨List.length_mapIdx.symm, fun k hk hk' => ?_⟩
    rw [List.get_eq_getElem, List.get_eq_getElem, List.getElem_mapIdx]
    split_ifs
    · by_cases hheld : ((flow.field "nodes").items[k]).has "inputs" = true ∨
          ((flow.field "nodes").items[k]).has "outputs" = true
      · exact Or.inr (nests_nestFields hheld)
      · exact Or.inl (nestFields_eq_self hheld)
    · exact Or.inl rfl

end Moving

/-! ### What is read of the two shapes -/

/-- The node as if it had its fields at the top. -/
def RawNode.flattened (n : RawNode) : RawNode :=
  { n with shape := .flat }

section Reading

variable {v w flow flow' : Value}

theorem shapeOf_of_held (h : v.has "inputs" = true ∨ v.has "outputs" = true) : RawNode.shapeOf v = .flat :=
  if_pos (Bool.or_eq_true_iff.mpr h)

theorem Nests.get?_data (h : Nests v w) {name : String} (hname : name = "inputs" ∨ name = "outputs") :
    (w.field "data").get? name = v.get? name := by
  rw [h.data, if_pos hname]

theorem Nests.shapeOf (h : Nests v w) : RawNode.shapeOf w = .nested := by
  have htop : (w.has "inputs" || w.has "outputs") = false := by
    rw [Value.has, Value.has, h.inputs, h.outputs]
    rfl
  have hdata : ((w.field "data").has "inputs" || (w.field "data").has "outputs") = true := by
    rw [Value.has, Value.has, h.get?_data (Or.inl rfl), h.get?_data (Or.inr rfl)]
    exact Bool.or_eq_true_iff.mpr h.held
  unfold RawNode.shapeOf
  simp only [htop, hdata, Bool.false_eq_true, if_false, if_true]

/-- Apart from its shape a node is read as before its fields moved. -/
theorem Nests.flattened_ofValue (h : Nests v w) (index : Nat) :
    (RawNode.ofValue index w).flattened = (RawNode.ofValue index v).flattened := by
  have hholder : RawNode.holder v = v := by
    rw [RawNode.holder, shapeOf_of_held h.held]
  have hholder' : RawNode.holder w = w.field "data" := by
    rw [RawNode.holder, h.shapeOf]
  have hfield : ∀ {x y : Value} {name : String}, x.get? name = y.get? name → x.field name = y.field name := by
    intro x y name hget
    rw [Value.field, Value.field, hget]
  have hinputs : (w.field "data").field "inputs" = v.field "inputs" := hfield (h.get?_data (Or.inl rfl))
  have houtputs : (w.field "data").field "outputs" = v.field "outputs" := hfield (h.get?_data (Or.inr rfl))
  have hrest : ∀ name, name ≠ "inputs" → name ≠ "outputs" → name ≠ "data" → w.field name = v.field name :=
    fun name hinputs houtputs hdata => hfield (h.rest name hinputs houtputs hdata)
  have hversion : w.get? "version" = v.get? "version" := h.rest _ (by decide) (by decide) (by decide)
  rw [RawNode.ofValue, RawNode.ofValue, hholder, hholder', hinputs, houtputs, hversion,
    hrest "id" (by decide) (by decide) (by decide), hrest "type" (by decide) (by decide) (by decide),
    hrest "position" (by decide) (by decide) (by decide)]
  rfl

end Reading

/-! ### What a run does with the two shapes -/

section Runs

variable {r : Registry} {o : Options} {s s' : Snapshot} {flow flow' : Value}

theorem sameHead_flattened (n : RawNode) : SameHead n.flattened n :=
  ⟨rfl, rfl, rfl, rfl, rfl⟩

theorem nodesIssues_flattened (h : s.Alike RawNode.flattened s') (seen : List String) (ns : List RawNode) :
    nodesIssues r o s' seen (ns.map RawNode.flattened) = nodesIssues r o s seen ns :=
  nodesIssues_alike id (fun _ _ => rfl) sameHead_flattened h (fun _ _ id => (formIssues_congr (h.fed id)).symm)
    seen ns

theorem issues_flattened (h : s.Alike RawNode.flattened s') : s.issues r o = s'.issues r o := by
  have hnodes : nodesIssues r o s [] s.nodes = nodesIssues r o s' [] s'.nodes := by
    rw [← nodesIssues_flattened h, h.nodes, nodesIssues_flattened (.refl s')]
  rw [Snapshot.issues, Snapshot.issues, hnodes, flatMap_edgeIssues_alike h (fun _ => rfl) fun _ => rfl,
    graphIssues_alike sameHead_flattened h]

theorem NestsNodes.alike (h : NestsNodes flow flow') :
    (flowSnapshot flow').Alike RawNode.flattened (flowSnapshot flow) := by
  have hnodes : (readIndexed RawNode.ofValue (flowNodes flow')).map RawNode.flattened =
      (readIndexed RawNode.ofValue (flowNodes flow)).map RawNode.flattened := by
    refine (map_readIndexed_congr h.nodes RawNode.ofValue fun k v w hvw => ?_).symm
    rcases hvw with rfl | hvw
    · rfl
    · exact (hvw.flattened_ofValue k).symm
  have hedges : flowEdges flow' = flowEdges flow := congrArg Value.items h.edges
  refine ⟨hnodes, congrArg (readIndexed RawEdge.ofValue) hedges, fun id => ?found, fun id field => ?fed⟩
  case found =>
    have hfind : ∀ ns : List RawNode, (ns.find? fun n => n.id = some id).map RawNode.flattened =
        (ns.map RawNode.flattened).find? fun n => n.id = some id := by
      intro ns
      rw [List.find?_map]
      rfl
    rw [flowSnapshot, flowSnapshot, Snapshot.node?_ofValues, Snapshot.node?_ofValues, hfind, hfind, hnodes]
  case fed =>
    rw [isConnected, isConnected, flowSnapshot, flowSnapshot, Snapshot.inboundFields_ofValues,
      Snapshot.inboundFields_ofValues, hedges]

theorem NestsNodes.hasLists (h : NestsNodes flow flow') : HasLists flow' ↔ HasLists flow := by
  rw [HasLists, HasLists, h.object, h.array, h.edges]

theorem NestsNodes.lint_eq (h : NestsNodes flow flow') : lint r o flow' = lint r o flow := by
  by_cases hlists : HasLists flow
  · rw [lint_eq_snapshot hlists, lint_eq_snapshot (h.hasLists.mpr hlists), Snapshot.lint, Snapshot.lint,
      error?_alike sameHead_flattened h.alike, issues_flattened h.alike]
  · rw [lint, lint, RawFlow.ofValue_congr h.null h.object h.array (congrArg Value.isArray h.edges) hlists]

end Runs

/-- **The two shapes of nodes.**  Whichever nodes of a flow have their inputs and outputs moved into data of
their own, a run ends as it did before, with the same report or the same error. -/
theorem lint_nestsNodes (r : Registry) (o : Options) (flow : Value) :
    (∀ flow', NestsNodes flow flow' → lint r o flow' = lint r o flow) ∧
      ∀ picked, NestsNodes flow (nestNodes picked flow) ∧
        lint r o (nestNodes picked flow) = lint r o flow := by
  refine ⟨fun flow' h => h.lint_eq, fun picked => ⟨nestsNodes_nestNodes picked flow, ?_⟩⟩
  exact (nestsNodes_nestNodes picked flow).lint_eq

/-- A node with null inputs and an output at the top, and data that does not count. -/
def flatNode : Value :=
  .record
    [("id", .str "sheet"), ("type", .str "dataset_output_node"),
      ("position", .record [("x", .int 0), ("y", .int 0)]), ("inputs", .null),
      ("outputs", .arr [.record [("id", .str "rows")]]), ("data", .record [("inputs", .arr [.null])])]

/-- The node with its fields in data of their own, in another order. -/
def nestedNode : Value :=
  .record
    [("data", .record [("outputs", .arr [.record [("id", .str "rows")]]), ("inputs", .null)]),
      ("id", .str "sheet"), ("type", .str "dataset_output_node"),
      ("position", .record [("x", .int 0), ("y", .int 0)])]

/-- A flow of two nodes, the first of which is null. -/
def secondNodeFlow (n : Value) : Value :=
  .record [("nodes", .arr [.null, n]), ("edges", .arr [])]

theorem nests_flatNode : Nests flatNode nestedNode where
  held := Or.inl rfl
  inputs := rfl
  outputs := rfl
  data name := by
    by_cases hinputs : name = "inputs"
    · subst hinputs
      rfl
    · by_cases houtputs : name = "outputs"
      · subst houtputs
        rfl
      · rw [if_neg (not_or.mpr ⟨hinputs, houtputs⟩)]
        simp [Value.field, Value.get?, nestedNode, Value.record, Value.opened, Table.get?, Ne.symm hinputs,
          Ne.symm houtputs]
  rest name hinputs houtputs hdata := by
    simp [Value.get?, nestedNode, flatNode, Value.record, Value.opened, Table.get?, hinputs.symm,
      houtputs.symm, hdata.symm]

theorem nestsNodes_secondNodeFlow : NestsNodes (secondNodeFlow flatNode) (secondNodeFlow nestedNode) where
  null := rfl
  object := rfl
  array := rfl
  nodes := .cons (Or.inl rfl) (.cons (Or.inr nests_flatNode) .nil)
  edges := rfl

theorem secondNodeFlow_nested :
    lint .builtin { mode := .node } (secondNodeFlow nestedNode) =
        lint .builtin { mode := .node } (secondNodeFlow flatNode) ∧
      lint .builtin { mode := .node } (nestNodes (fun k => k = 1) (secondNodeFlow flatNode)) =
        lint .builtin { mode := .node } (secondNodeFlow flatNode) ∧
      (lint .builtin { mode := .node } (secondNodeFlow flatNode)).map (·.map (·.code)) =
        .ok [.missingNodeId, .missingRequiredInput, .missingRequiredInput, .unknownOutput] := by
  obtain ⟨hmoved, hpicked⟩ := lint_nestsNodes .builtin { mode := .node } (secondNodeFlow flatNode)
  exact ⟨hmoved _ nestsNodes_secondNodeFlow, (hpicked fun k => k = 1).2, by decide +kernel⟩

end WorkflowCheck
