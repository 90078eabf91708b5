import WorkflowCheck.Proofs.Graph.Circles
import WorkflowCheck.Proofs.Lint.Clean
import WorkflowCheck.Proofs.Lint.WellFormed

/-!
# What a snapshot says of the raw flow

A rule looks at the snapshot of a flow, and a flow is well-formed by its raw values.  The lemmas here go
from the one to the other, for each thing that a rule looks at: ids, contracts, positions, inputs,
outputs, versions, the ends and handles of edges, and the edges as a relation.
-/

namespace WorkflowCheck

open Relation

/-- The snapshot of the lists of a flow. -/
def flowSnapshot (flow : Value) : Snapshot :=
  .ofValues (flowNodes flow) (flowEdges flow)

/-- What is no flow gives a report of one error, and a flow the report of its snapshot. -/
theorem ofValue_cases (flow : Value) :
    (HasLists flow ∧ RawFlow.ofValue flow = .snapshot (flowSnapshot flow)) ∨
      (¬ HasLists flow ∧ ∃ issue, RawFlow.ofValue flow = .malformed issue ∧ issue.severity = .error) := by
  unfold RawFlow.ofValue
  split_ifs with hnull hobject hnodes hedges
  · refine Or.inr ⟨fun h => ?_, _, rfl, rfl⟩
    rw [Value.isNull_iff.mp hnull] at h
    exact Bool.noConfusion h.1
  · refine Or.inr ⟨fun h => ?_, _, rfl, rfl⟩
    rw [h.1] at hobject
    exact Bool.noConfusion hobject
  · refine Or.inr ⟨fun h => ?_, _, rfl, rfl⟩
    rw [h.2.1] at hnodes
    exact Bool.noConfusion hnodes
  · refine Or.inr ⟨fun h => ?_, _, rfl, rfl⟩
    rw [h.2.2] at hedges
    exact Bool.noConfusion hedges
  · rw [Bool.not_eq_true', Bool.not_eq_false] at hobject hnodes hedges
    exact Or.inl ⟨⟨hobject, hnodes, hedges⟩, rfl⟩

/-- What is no flow is reported by the kinds of its parts alone. -/
theorem RawFlow.ofValue_congr {flow flow' : Value} (hnull : flow'.isNull = flow.isNull)
    (hobject : flow'.isObject = flow.isObject)
    (hnodes : (flow'.field "nodes").isArray = (flow.field "nodes").isArray)
    (hedges : (flow'.field "edges").isArray = (flow.field "edges").isArray) (h : ¬ HasLists flow) :
    ofValue flow' = ofValue flow := by
  rw [ofValue, ofValue, hnull, hobject, hnodes, hedges]
  split_ifs with _ hobject hnodes hedges
  · rfl
  · rfl
  · rfl
  · rfl
  · rw [Bool.not_eq_true', Bool.not_eq_false] at hobject hnodes hedges
    exact absurd ⟨hobject, hnodes, hedges⟩ h

section Node

variable {r : Registry} {o : Options} {flow v : Value} {index : Nat} {id : String} {c : Contract}

/-! ### Type, place and version -/

theorem contractOf?_eq_some_iff :
    r.contractOf? (RawNode.ofValue index v) = some c ↔ HasContract r v c := by
  rw [Registry.contractOf?, Option.bind_eq_some_iff]
  exact exists_congr fun type => and_congr_left' Value.text?_eq_some_iff

theorem isVoid_type_iff (h : HasContract r v c) :
    (RawNode.ofValue index v).type.isVoid = false ↔ v.field "type" ≠ .str "" := by
  obtain ⟨type, htype, -⟩ := h
  show (v.field "type").isVoid = false ↔ _
  rw [htype, ne_eq, Value.str.injEq]
  simp [Value.isVoid, Value.isEmpty]

theorem exists_coordinates?_ofValue_iff (h : (v.field "position").HasFittingNumbers) :
    (∃ here, (RawNode.ofValue index v).coordinates? = some here) ↔ HasPosition v := by
  refine Place.exists_coordinates?_iff.trans ⟨?_, fun hposition => ⟨hposition.2, h⟩⟩
  rintro ⟨hnumbers, -⟩
  exact ⟨hnumbers.1.isObject, hnumbers⟩

theorem hasUnknownVersion_iff :
    hasUnknownVersion (RawNode.ofValue index v) = false ↔ HasUsableVersion v := by
  show (!(v.field "version").isNull && ((v.field "version").text?.bind Version.ofTag?).isNone) = false ↔ _
  rw [HasUsableVersion]
  cases v.field "version" with
  | null => simp [Value.isNull]
  | str raw =>
    have htag : (Version.ofTag? raw).isNone = false ↔ Version.IsTag raw := by
      rw [← Version.isSome_ofTag?_iff]
      cases Version.ofTag? raw <;> simp
    simp [Value.isNull, Value.text?, ← htag]
  | _ => simp [Value.isNull, Value.text?]

/-! ### Inputs and outputs -/

/-- Finding the first value with an id, in whatever list. -/
theorem find?_names_iff {vs : List Value} :
    vs.find? (fun v => (v.field "id").filledText? == some id) = some v ↔
      ∃ before after, vs = before ++ v :: after ∧ v.Names "id" id ∧ ∀ w ∈ before, ¬ w.Names "id" id := by
  have hnames : ∀ w : Value, ((w.field "id").filledText? == some id) = true ↔ w.Names "id" id := by
    intro w
    rw [beq_iff_eq, Value.filledText?_field_iff]
  rw [List.find?_eq_some_iff_append]
  constructor
  · rintro ⟨hv, before, after, hvs, hbefore⟩
    refine ⟨before, after, hvs, (hnames v).mp hv, fun w hw hnamed => ?_⟩
    have h := hbefore w hw
    rw [(hnames w).mpr hnamed] at h
    cases h
  · rintro ⟨before, after, hvs, hv, hbefore⟩
    refine ⟨(hnames v).mpr hv, before, after, hvs, fun w hw => ?_⟩
    rw [Bool.not_eq_true', Bool.eq_false_iff, ne_eq, hnames]
    exact hbefore w hw

theorem exists_findInput?_iff {P : RawInput → Prop} {Q : Value → Prop}
    (h : ∀ k i, P (RawInput.ofValue k i) ↔ Q i) :
    (∃ i, (RawNode.ofValue index v).findInput? id = some i ∧ P i) ↔
      ∃ i, FirstInput v id i ∧ Q i := by
  have hread : (∃ i, (readIndexed RawInput.ofValue (nodeInputs v)).find? (fun i => i.id == some id) =
      some i ∧ P i) ↔
      ∃ i, (nodeInputs v).find? (fun i => (i.field "id").filledText? == some id) = some i ∧ Q i :=
    exists_find?_readIndexed _ (fun _ _ => rfl) h
  exact hread.trans (exists_congr fun i => and_congr_left' find?_names_iff)

theorem unset_iff {strict : Bool} {w : Value} :
    (if strict = true then w.isEmpty else w.isNull) = true ↔ Unset strict w := by
  constructor
  · intro h
    cases strict with
    | false =>
      rw [if_neg Bool.false_ne_true, Value.isNull_iff] at h
      rw [h]
      exact .null
    | true =>
      rw [if_pos rfl] at h
      cases w with
      | null => exact .null
      | str s =>
        rw [Value.isEmpty, String.isEmpty_iff] at h
        rw [h]
        exact .text rfl
      | arr xs =>
        rw [Value.isEmpty, List.isEmpty_iff] at h
        rw [h]
        exact .array rfl
      | obj fields =>
        rw [Value.isEmpty, List.isEmpty_iff] at h
        rw [h]
        exact .object rfl
      | set members =>
        rw [Value.isEmpty, List.isEmpty_iff] at h
        rw [h]
        exact .set rfl
      | _ => cases h
  · rintro (_ | hstrict | hstrict | hstrict | hstrict)
    · cases strict <;> rfl
    all_goals
      rw [if_pos hstrict]
      rfl

theorem isUnset_iff {i : Value} :
    isUnset o (RawInput.ofValue index i) = false ↔ ¬ Unset o.strict (i.field "value") := by
  rw [← unset_iff, Bool.not_eq_true]
  rfl

theorem fieldInto_eq_some_iff {e : RawEdge} {field : String} :
    Snapshot.fieldInto id e = some field ↔
      e.target = some id ∧ ∃ handle, e.targetHandle = some handle ∧ fieldOfHandle handle = field := by
  rw [Snapshot.fieldInto, RawEdge.targetField, Option.ite_none_right_eq_some, Option.map_eq_some_iff]

theorem isConnected_iff {field : String} :
    isConnected (flowSnapshot flow) id field = true ↔ IsFed flow id field := by
  rw [isConnected, flowSnapshot, Snapshot.inboundFields_ofValues, List.any_filterMap, List.any_eq_true]
  refine exists_mem_readIndexed fun k e => ?_
  have htarget : (RawEdge.ofValue k e).target = some id ↔ e.Names "target" id :=
    Value.filledText?_field_iff
  have hhandle : ∀ handle, (RawEdge.ofValue k e).targetHandle = some handle ↔
      e.Names "targetHandle" handle := fun handle => Value.filledText?_field_iff
  simp only [← htarget, ← hhandle, ← namesField_iff]
  constructor
  · intro h
    cases hinto : Snapshot.fieldInto id (RawEdge.ofValue k e) with
    | none => simp [hinto] at h
    | some inner =>
      rw [hinto] at h
      obtain ⟨hid, handle, hsome, rfl⟩ := fieldInto_eq_some_iff.mp hinto
      exact ⟨hid, handle, hsome, h⟩
  · rintro ⟨hid, handle, hsome, hnames⟩
    rw [fieldInto_eq_some_iff.mpr ⟨hid, handle, hsome, rfl⟩]
    exact hnames

/-! ### Outputs -/

theorem isTruthValue_iff :
    isTruthValue (v.get? "isDeleted") = true ↔ ∃ b, v.field "isDeleted" = .bool b := by
  rw [Value.field]
  cases v.get? "isDeleted" with
  | none => simp [isTruthValue]
  | some mark => cases mark <;> simp [isTruthValue]

theorem wellFormedOutput_iff {strict : Bool} :
    (∃ field, (RawOutput.ofValue index v).id = some field) ∧
        ((strict = true ∨ (RawOutput.ofValue index v).deleted.isSome = true) →
          isTruthValue (RawOutput.ofValue index v).deleted = true) ↔
      WellFormedOutput strict v := by
  rw [WellFormedOutput]
  refine and_congr (exists_congr fun field => Value.filledText?_field_iff) ?_
  exact imp_congr Iff.rfl isTruthValue_iff

/-! ### A node -/

theorem passes_iff (h : (v.field "position").HasFittingNumbers) :
    Passes r o (flowSnapshot flow) (RawNode.ofValue index v) ↔
      ∃ id c, HasContract r v c ∧ WellFormedNode o.strict flow v id c := by
  rw [Passes]
  refine exists_congr fun id => exists_congr fun c => ?_
  have hid : (RawNode.ofValue index v).id = some id ↔ v.Names "id" id := Value.filledText?_field_iff
  have hrequired : ∀ field, (∃ i, (RawNode.ofValue index v).findInput? field = some i ∧
      (isUnset o i = false ∨ isConnected (flowSnapshot flow) id field = true)) ↔
      ∃ i, FirstInput v field i ∧ (¬ Unset o.strict (i.field "value") ∨ IsFed flow id field) :=
    fun field => exists_findInput?_iff fun k i => or_congr isUnset_iff isConnected_iff
  have hinputs : (∀ i ∈ (RawNode.ofValue index v).inputs, ∃ field, i.id = some field) ↔
      ∀ i ∈ nodeInputs v, ∃ field, i.Names "id" field :=
    forall_mem_readIndexed fun k i _ => exists_congr fun field => Value.filledText?_field_iff
  have houtputs : (∀ out ∈ (RawNode.ofValue index v).outputs, (∃ field, out.id = some field) ∧
      ((o.strict = true ∨ out.deleted.isSome = true) → isTruthValue out.deleted = true)) ↔
      ∀ out ∈ nodeOutputs v, WellFormedOutput o.strict out :=
    forall_mem_readIndexed fun k out _ => wellFormedOutput_iff
  rw [hid, contractOf?_eq_some_iff]
  constructor
  · rintro ⟨hnames, hc, hn⟩
    exact ⟨hc, {
      object := hnames.isObject
      names := hnames
      typed := (isVoid_type_iff hc).mp hn.typed
      position := (exists_coordinates?_ofValue_iff h).mp hn.placed
      required := fun field hfield => (hrequired field).mp (hn.required field hfield)
      inputs := hinputs.mp hn.inputs
      outputs := houtputs.mp hn.outputs
      version := hasUnknownVersion_iff.mp hn.version }⟩
  · rintro ⟨hc, hn⟩
    exact ⟨hn.names, hc, {
      typed := (isVoid_type_iff hc).mpr hn.typed
      placed := (exists_coordinates?_ofValue_iff h).mpr hn.position
      required := fun field hfield => (hrequired field).mpr (hn.required field hfield)
      inputs := hinputs.mpr hn.inputs
      outputs := houtputs.mpr hn.outputs
      version := hasUnknownVersion_iff.mpr hn.version }⟩

/-! ### The fields that a node offers -/

theorem mem_outputHandles_iff {field : String} :
    field ∈ outputHandles r (RawNode.ofValue index v) ↔ OffersOutput r v field := by
  rw [outputHandles, List.mem_append, RawNode.outputIds, List.mem_filterMap]
  refine or_congr (exists_mem_readIndexed fun k out => Value.filledText?_field_iff) ?_
  have hcontract : ∀ c, HasContract r v c ↔ r.contractOf? (RawNode.ofValue index v) = some c :=
    fun c => contractOf?_eq_some_iff.symm
  simp only [hcontract]
  cases r.contractOf? (RawNode.ofValue index v) <;> simp

/-- Only an array has items, and an array is no object. -/
theorem isArray_of_head? {entry item : Value} (h : entry.items.head? = some item) :
    entry.isArray = true ∧ entry.isObject = false := by
  unfold Value.items at h
  unfold Value.isArray Value.isObject
  generalize entry.opened = w at h ⊢
  cases w with
  | arr xs => exact ⟨rfl, rfl⟩
  | pair a b => exact ⟨rfl, rfl⟩
  | _ => cases h

theorem entryName_eq_some_iff {entry : Value} {field : String} :
    entryName entry = some field ↔ EntryNames entry field := by
  rw [entryName]
  constructor
  · intro h
    split_ifs at h with hobject harray
    · cases hname : entry.get? "name" with
      | none =>
        rw [hname] at h
        exact .key hname (Value.filledText?_field_iff.mp h)
      | some name =>
        rw [hname] at h
        obtain ⟨rfl, hne⟩ := Value.filledText?_eq_some_iff.mp h
        exact .name hname hne
    · obtain ⟨first, hfirst, h⟩ := Option.bind_eq_some_iff.mp h
      obtain ⟨rfl, hne⟩ := Value.filledText?_eq_some_iff.mp h
      exact .row hfirst hne
    · obtain ⟨rfl, hne⟩ := Value.filledText?_eq_some_iff.mp h
      exact .text hne
  · have hfilled : ∀ {s : String}, s ≠ "" → (Value.str s).filledText? = some s := fun hne =>
      Value.filledText?_eq_some_iff.mpr ⟨rfl, hne⟩
    rintro (⟨hname, hne⟩ | ⟨hname, hkey⟩ | ⟨hfirst, hne⟩ | hne)
    · have hobject : entry.isObject = true := by
        apply Value.isObject_of_field_ne_null
        rw [Value.field, hname]
        rintro ⟨⟩
      rw [if_pos hobject, hname]
      exact hfilled hne
    · rw [if_pos hkey.isObject, hname]
      exact Value.filledText?_field_iff.mpr hkey
    · obtain ⟨harray, hobject⟩ := isArray_of_head? hfirst
      rw [if_neg (by rw [hobject]; exact Bool.false_ne_true), if_pos harray, hfirst]
      exact hfilled hne
    · exact hfilled hne

theorem dynamicName?_eq_some_iff {list : String} :
    c.dynamicName? = some list ↔ c.dynamicField = some list ∧ list ≠ "" := by
  rw [Contract.dynamicName?, Option.filter_eq_some_iff, Bool.not_eq_true', Bool.eq_false_iff, ne_eq,
    String.isEmpty_iff]

theorem mem_dynamicInputs_iff {field : String} :
    field ∈ dynamicInputs (RawNode.ofValue index v) c ↔ IsDynamicInput v c field := by
  have hlisted : ∀ list, (∃ i, (RawNode.ofValue index v).findInput? list = some i ∧
      field ∈ i.value.items.filterMap entryName) ↔
      ∃ holder, FirstInput v list holder ∧
        ∃ entry ∈ (holder.field "value").items, EntryNames entry field := fun list =>
    exists_findInput?_iff fun k i => by
      rw [List.mem_filterMap]
      exact exists_congr fun entry => and_congr_right' entryName_eq_some_iff
  have hfound : field ∈ dynamicInputs (RawNode.ofValue index v) c ↔
      ∃ i, c.dynamicName?.bind (RawNode.ofValue index v).findInput? = some i ∧
        field ∈ i.value.items.filterMap entryName := by
    rw [dynamicInputs]
    cases c.dynamicName?.bind (RawNode.ofValue index v).findInput? <;> simp
  rw [hfound, IsDynamicInput]
  constructor
  · rintro ⟨i, hi, hmem⟩
    obtain ⟨list, hlist, hi⟩ := Option.bind_eq_some_iff.mp hi
    exact ⟨list, (dynamicName?_eq_some_iff.mp hlist).1, (hlisted list).mp ⟨i, hi, hmem⟩⟩
  · rintro ⟨list, hlist, hholder⟩
    obtain ⟨i, hi, hmem⟩ := (hlisted list).mpr hholder
    obtain ⟨holder, ⟨before, after, -, hnamed, -⟩, -⟩ := hholder
    exact ⟨i, Option.bind_eq_some_iff.mpr ⟨list, dynamicName?_eq_some_iff.mpr ⟨hlist, hnamed.2⟩, hi⟩,
      hmem⟩

theorem mem_inputHandles_iff {field : String} :
    field ∈ inputHandles r (RawNode.ofValue index v) ↔ OffersInput r v field := by
  rw [inputHandles, List.mem_append, RawNode.inputIds, List.mem_filterMap]
  refine or_congr (exists_mem_readIndexed fun k i => Value.filledText?_field_iff) ?_
  have hcontract : ∀ c, HasContract r v c ↔ r.contractOf? (RawNode.ofValue index v) = some c :=
    fun c => contractOf?_eq_some_iff.symm
  have hallowed : ∀ c, (field ∈ c.declaredInputs ∨ IsDynamicInput v c field) ↔
      field ∈ allowedInputs (RawNode.ofValue index v) c := fun c => by
    rw [allowedInputs, List.mem_append, mem_dynamicInputs_iff]
  simp only [hcontract, hallowed]
  cases r.contractOf? (RawNode.ofValue index v) <;> simp

end Node

/-! ### Edges -/

section Edges

variable {r : Registry} {flow : Value} {id : String}

/-- The node of an id is read from the first raw node that has it. -/
theorem exists_firstNode_iff {P : RawNode → Prop} {Q : Value → Prop}
    (h : ∀ k v, P (RawNode.ofValue k v) ↔ Q v) :
    (∃ n, (flowSnapshot flow).node? id = some n ∧ P n) ↔ ∃ v, FirstNode flow id v ∧ Q v := by
  have hread : (∃ n, (readIndexed RawNode.ofValue (flowNodes flow)).find? (fun n => n.id = some id) =
      some n ∧ P n) ↔
      ∃ v, (flowNodes flow).find? (fun v => (v.field "id").filledText? == some id) = some v ∧ Q v :=
    exists_find?_readIndexed _ (fun k v => (beq_eq_decide ..).symm) h
  rw [flowSnapshot, Snapshot.node?_ofValues, hread]
  exact exists_congr fun v => and_congr_left' find?_names_iff

/-- Of the nodes that have an id one is the first. -/
theorem exists_firstNode {n : Value} (hn : n ∈ flowNodes flow) (hid : n.Names "id" id) :
    ∃ first, FirstNode flow id first := by
  have hsome : ((flowNodes flow).find? fun v => (v.field "id").filledText? == some id).isSome = true :=
    List.find?_isSome.mpr ⟨n, hn, beq_iff_eq.mpr (Value.filledText?_field_iff.mpr hid)⟩
  obtain ⟨first, hfirst⟩ := Option.isSome_iff_exists.mp hsome
  exact ⟨first, find?_names_iff.mp hfirst⟩

theorem FirstNode.unique {v w : Value} (hv : FirstNode flow id v) (hw : FirstNode flow id w) : v = w := by
  have h := (find?_names_iff.mpr hv).symm.trans (find?_names_iff.mpr hw)
  exact Option.some.inj h

/-- In a flow whose ids are distinct the node of an id is any node that has it. -/
theorem exists_node?_iff {P : RawNode → Prop} {Q : Value → Prop}
    (hdistinct : (flowNodes flow).Pairwise fun m n => m.field "id" ≠ n.field "id")
    (h : ∀ k v, P (RawNode.ofValue k v) ↔ Q v) :
    (∃ n, (flowSnapshot flow).node? id = some n ∧ P n) ↔
      ∃ v ∈ flowNodes flow, v.Names "id" id ∧ Q v := by
  have hfirst : ∀ v, FirstNode flow id v ↔ v ∈ flowNodes flow ∧ v.Names "id" id := by
    intro v
    constructor
    · rintro ⟨before, after, hvs, hvid, -⟩
      rw [hvs]
      exact ⟨List.mem_append_right before List.mem_cons_self, hvid⟩
    · rintro ⟨hv, hvid⟩
      obtain ⟨before, after, hvs⟩ := List.append_of_mem hv
      refine ⟨before, after, hvs, hvid, fun m hm hmid => ?_⟩
      rw [hvs] at hdistinct
      exact (List.pairwise_append.mp hdistinct).2.2 m hm v List.mem_cons_self (hmid.1.trans hvid.1.symm)
  rw [exists_firstNode_iff h]
  simp only [hfirst, and_assoc]

theorem clean_edgeIssues_iff
    (hdistinct : (flowNodes flow).Pairwise fun m n => m.field "id" ≠ n.field "id") {k : Nat} {e : Value} :
    Clean (edgeIssues r (flowSnapshot flow) (RawEdge.ofValue k e)) ↔
      ∃ source outHandle target inHandle, WellFormedEdge r flow e source outHandle target inHandle := by
  have hread : ∀ {name text : String}, (e.field name).filledText? = some text ↔ e.Names name text :=
    Value.filledText?_field_iff
  rw [clean_edgeIssues]
  refine exists_congr fun source => exists_congr fun outHandle => exists_congr fun target =>
    exists_congr fun inHandle => ?_
  rw [exists_node?_iff hdistinct fun k v => mem_outputHandles_iff,
    exists_node?_iff hdistinct fun k v => mem_inputHandles_iff]
  constructor
  · rintro ⟨hsource, hout, htarget, hin, hleaves, henters⟩
    exact ⟨hread.mp hsource, hread.mp hout, hread.mp htarget, hread.mp hin, hleaves, henters⟩
  · rintro ⟨hsource, hout, htarget, hin, hleaves, henters⟩
    exact ⟨hread.mpr hsource, hread.mpr hout, hread.mpr htarget, hread.mpr hin, hleaves, henters⟩

/-- The ids of the nodes of a snapshot are those that the raw nodes name. -/
theorem mem_nodeIds_iff {id : String} :
    id ∈ (flowSnapshot flow).nodes.filterMap (·.id) ↔ ∃ v ∈ flowNodes flow, v.Names "id" id := by
  rw [Snapshot.mem_nodeIds]
  exact exists_mem_readIndexed fun _ _ => Value.filledText?_field_iff

/-- An id that no node has is looked up in vain. -/
theorem node?_eq_none_iff {id : String} :
    (flowSnapshot flow).node? id = none ↔ id ∉ (flowSnapshot flow).nodes.filterMap (·.id) := by
  rw [flowSnapshot, Snapshot.node?_ofValues, List.find?_eq_none, Snapshot.mem_nodeIds]
  push Not
  exact forall₂_congr fun n _ => not_congr decide_eq_true_iff

theorem mem_nodes_of_node? {id : String} {n : RawNode} (h : (flowSnapshot flow).node? id = some n) :
    n ∈ (flowSnapshot flow).nodes := by
  rw [flowSnapshot, Snapshot.node?_ofValues] at h
  exact List.mem_of_find?_eq_some h

theorem links_iff {a b : String} : (flowSnapshot flow).Links a b ↔ Leads flow a b :=
  exists_mem_readIndexed fun _ _ => and_congr Value.filledText?_field_iff Value.filledText?_field_iff

end Edges

end WorkflowCheck
