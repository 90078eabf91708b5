import WorkflowCheck.Proofs.Lint.Handles
import WorkflowCheck.Proofs.Lint.Switches

/-!
# What an issue says of its place

Every issue of a run is about a node without an id, a node with one, an edge, or a circle that was found
(`Issue.IsAbout`, `Snapshot.issues_isAbout`).  From these four cases it follows that the code of an issue
fixes its severity, the kind of its element and the side of its field (`lint_fitsCode`).  It also follows
that an issue names a node or an edge of the flow, unless it is about a circle: a circle is met by way of
edges, and may start at an id that no node has (`lint_pointsInto`).
-/

namespace WorkflowCheck

open Relation

/-! ### What the issues of a run are about -/

/-- The codes of what is said of a node with an id as a whole. -/
def wholeNodeCodes : List IssueCode :=
  [.duplicateNodeId, .missingNodeType, .invalidNodeType, .missingNodePosition, .invalidNodePosition,
    .missingInputId, .missingOutputId, .missingNodeVersion, .invalidVersionSyntax, .prereleaseVersion,
    .nodePositionOverlap, .isolatedNode]

/-- An issue is about the node of an id, or about one of its inputs or outputs. -/
inductive Issue.IsOfNode (id : String) (i : Issue) : Prop
  | whole : i.IsOn .node id wholeNodeCodes → IsOfNode id i
  | input (field : String) :
      i.IsOnField id .input field [.missingRequiredInput, .requiredInputEmpty, .unknownInput] →
        IsOfNode id i
  | mark (field : Option String) :
      i.IsOnField id .output field [.invalidOutputDeleted] → IsOfNode id i
  | output (field : String) : i.IsOnField id .output field [.unknownOutput] → IsOfNode id i

/-- What an issue of a snapshot is about. -/
inductive Issue.IsAbout (s : Snapshot) (i : Issue) : Prop
  | nameless : i.IsOn .node none [.missingNodeId] → IsAbout s i
  | node (n : RawNode) (id : String) : n ∈ s.nodes → n.id = some id → i.IsOfNode id → IsAbout s i
  | edge (e : RawEdge) : e ∈ s.edges → i.IsOn .edge e.id edgeCodes → IsAbout s i
  | circle (c : FoundCircle) : c ∈ s.foundCircles → i = cycleIssue c.path → IsAbout s i

section Rules

variable {r : Registry} {o : Options} {s : Snapshot} {repeated : Bool} {n : RawNode} {id : String}
  {c : Contract}

theorem inputsIssues_isOfNode : ∀ i ∈ inputsIssues o s n id c, i.IsOfNode id := by
  rw [inputsIssues, List.forall_mem_append]
  refine ⟨fun i hi => ?required, fun i hi => ?present⟩
  case required =>
    obtain ⟨required, -, hi⟩ := List.mem_flatMap.mp hi
    exact .input required ((requiredIssues_isOnField i hi).mono (by decide))
  case present =>
    obtain ⟨input, -, hi⟩ := List.mem_flatMap.mp hi
    rcases inputIssues_isOn i hi with h | ⟨field, h⟩
    · exact .whole (h.mono (by decide))
    · exact .input field (h.mono (by decide))

theorem outputIssues_isOfNode {out : RawOutput} : ∀ i ∈ outputIssues o id c out, i.IsOfNode id := by
  intro i hi
  rcases outputIssues_isOn i hi with h | h | ⟨field, h⟩
  · exact .whole (h.mono (by decide))
  · exact .mark out.id h
  · exact .output field h

theorem formIssues_isOfNode : ∀ i ∈ formIssues r o s repeated n id, i.IsOfNode id := by
  rw [formIssues, List.forall_mem_append, List.forall_mem_append, List.forall_mem_append]
  refine ⟨⟨⟨?repeats, ?type⟩, ?position⟩, ?fields⟩
  case repeats =>
    exact forall_mem_ite_nil (List.forall_mem_singleton.mpr (.whole (Issue.isOn_ofElement (by decide) _)))
  case type => exact fun i hi => .whole ((typeIssues_isOn i hi).mono (by decide))
  case position => exact fun i hi => .whole ((positionIssues_isOn i hi).mono (by decide))
  case fields =>
    cases r.checkedContract? n with
    | none => exact List.forall_mem_nil _
    | some c =>
      rw [List.forall_mem_append]
      refine ⟨inputsIssues_isOfNode, fun i hi => ?_⟩
      obtain ⟨out, -, hi⟩ := List.mem_flatMap.mp hi
      exact outputIssues_isOfNode i hi

theorem nodeIssues_isAbout (hn : n ∈ s.nodes) : ∀ i ∈ nodeIssues r o s repeated n, i.IsAbout s := by
  cases hid : n.id with
  | none =>
    rw [nodeIssues_of_no_id hid]
    exact List.forall_mem_singleton.mpr (.nameless (Issue.isOn_ofElement (by decide) _))
  | some id =>
    rw [nodeIssues_of_id hid, List.forall_mem_append, List.forall_mem_append]
    refine ⟨⟨fun i hi => .node n id hn hid ?_, fun i hi => .node n id hn hid ?_⟩,
      forall_mem_ite_nil fun i hi => .node n id hn hid ?_⟩
    · exact formIssues_isOfNode i hi
    · exact .whole ((versionIssues_isOn i hi).mono (by decide))
    · exact .whole ((overlapIssues_isOn i hi).mono (by decide))

theorem nodesIssues_isAbout :
    ∀ (seen : List String) (ns : List RawNode), (∀ n ∈ ns, n ∈ s.nodes) →
      ∀ i ∈ nodesIssues r o s seen ns, i.IsAbout s
  | _, [], _ => List.forall_mem_nil _
  | _, n :: ns, h => by
    rw [nodesIssues, List.forall_mem_append]
    exact ⟨nodeIssues_isAbout (h n List.mem_cons_self),
      nodesIssues_isAbout _ ns fun m hm => h m (List.mem_cons_of_mem n hm)⟩

theorem isolationIssues_isAbout : ∀ i ∈ isolationIssues s, i.IsAbout s := by
  rw [isolationIssues]
  split_ifs
  · exact List.forall_mem_nil _
  · refine List.forall_mem_map.mpr fun id hid => ?_
    obtain ⟨n, hn, hnid⟩ := Snapshot.mem_nodeIds.mp (List.mem_filter.mp hid).1
    exact .node n id hn hnid (.whole (Issue.isOn_ofElement (by decide) _))

/-- Each issue of a snapshot is about something of it. -/
theorem Snapshot.issues_isAbout : ∀ i ∈ s.issues r o, i.IsAbout s := by
  rw [issues, List.forall_mem_append]
  refine ⟨nodesIssues_isAbout [] s.nodes fun n hn => hn, forall_mem_ite_nil ?_⟩
  rw [graphIssues, List.forall_mem_append, List.forall_mem_append]
  refine ⟨fun i hi => ?edge, isolationIssues_isAbout, ?circle⟩
  case edge =>
    obtain ⟨e, he, hi⟩ := List.mem_flatMap.mp hi
    exact .edge e he (edgeIssues_isOn i hi)
  case circle =>
    rw [cycleIssues_eq_map]
    exact List.forall_mem_map.mpr fun c hc => .circle c hc rfl

end Rules

/-! ### The form of an issue -/

namespace IssueCode

/-- The codes of warnings. -/
def warnings : List IssueCode :=
  [.unknownInput, .unknownOutput, .missingNodeVersion, .prereleaseVersion, .nodePositionOverlap,
    .isolatedNode]

theorem severity_eq_warning_iff (code : IssueCode) : code.severity = .warning ↔ code ∈ warnings := by
  cases code <;> decide

/-- The kind of element that the issues of a code are about; what is no flow has no elements. -/
def element? : IssueCode → Option Element
  | .invalidFlowData | .missingNodesArray | .missingEdgesArray => none
  | .missingEdgeSource | .missingEdgeSourceHandle | .missingEdgeTarget | .missingEdgeTargetHandle
  | .invalidEdgeSourceNode | .invalidEdgeTargetNode | .invalidEdgeSourceHandle
  | .invalidEdgeTargetHandle => some .edge
  | _ => some .node

/-- The side on which the field is that the issues of a code are about, if they are about one. -/
def side? : IssueCode → Option FieldSide
  | .missingRequiredInput | .requiredInputEmpty | .unknownInput => some .input
  | .invalidOutputDeleted | .unknownOutput => some .output
  | _ => none

end IssueCode

namespace Issue

theorem IsOfNode.names {i : Issue} {id : String} (h : i.IsOfNode id) :
    i.element = some .node ∧ i.elementId = some id := by
  rcases h with ⟨_, _, _, rfl⟩ | ⟨_, _, _, _, rfl⟩ | ⟨_, _, _, _, rfl⟩ | ⟨_, _, _, _, rfl⟩
  · exact ⟨rfl, rfl⟩
  · exact ⟨rfl, rfl⟩
  · exact ⟨rfl, rfl⟩
  · exact ⟨rfl, rfl⟩

/-- The form of an issue is the one of its code. -/
structure FitsCode (i : Issue) : Prop where
  severity : i.severity = .warning ↔ i.code ∈ IssueCode.warnings
  element : i.element = i.code.element?
  side : i.side = i.code.side?
  /-- A node is named by an id unless that is what it lacks. -/
  named : i.element = some .node → i.code ≠ .missingNodeId → ∃ id, i.elementId = some id ∧ id ≠ ""
  nameless : i.element = none ∨ i.code = .missingNodeId → i.elementId = none
  /-- Only the field of a mark of deletion may lack its id. -/
  field : i.side.isSome = true → i.code ≠ .invalidOutputDeleted → ∃ field, i.fieldId = some field
  noField : i.side = none → i.fieldId = none

variable {i : Issue} {codes : List IssueCode} {id : String} {side : FieldSide} {field : Option String}

theorem fitsCode_ofFlow {code : IssueCode} (helement : code.element? = none) (hside : code.side? = none)
    (message : String) : (ofFlow code.severity code message).FitsCode where
  severity := code.severity_eq_warning_iff
  element := helement.symm
  side := hside.symm
  named := nofun
  nameless := fun _ => rfl
  field := nofun
  noField := fun _ => rfl

theorem fitsCode_ofElement {code : IssueCode} {element : Element} {id : Option String}
    (helement : code.element? = some element) (hside : code.side? = none)
    (hnamed : element = .node → code ≠ .missingNodeId → ∃ name, id = some name ∧ name ≠ "")
    (hnameless : code = .missingNodeId → id = none) (message : String) :
    (ofElement code.severity code element id message).FitsCode where
  severity := code.severity_eq_warning_iff
  element := helement.symm
  side := hside.symm
  named := fun hnode => hnamed (Option.some.inj hnode)
  nameless := fun hno => hno.elim nofun hnameless
  field := nofun
  noField := fun _ => rfl

theorem fitsCode_ofField {code : IssueCode} (helement : code.element? = some .node)
    (hside : code.side? = some side) (hcode : code ≠ .missingNodeId) (hid : id ≠ "")
    (hfield : code = .invalidOutputDeleted ∨ ∃ name, field = some name) (message : String) :
    (ofField code.severity code id side field message).FitsCode where
  severity := code.severity_eq_warning_iff
  element := helement.symm
  side := hside.symm
  named := fun _ _ => ⟨id, rfl, hid⟩
  nameless := fun hno => hno.elim nofun fun hmissing => absurd hmissing hcode
  field := fun _ hne => hfield.resolve_left hne
  noField := nofun

theorem IsOn.fitsCode_nameless (h : i.IsOn .node none [.missingNodeId]) : i.FitsCode := by
  obtain ⟨code, hcode, message, rfl⟩ := h
  cases List.mem_singleton.mp hcode
  exact fitsCode_ofElement rfl rfl (fun _ hne => absurd rfl hne) (fun _ => rfl) message

theorem IsOn.fitsCode_node (h : i.IsOn .node id codes) (hid : id ≠ "")
    (hcodes : ∀ code ∈ codes, code.element? = some .node ∧ code.side? = none ∧ code ≠ .missingNodeId) :
    i.FitsCode := by
  obtain ⟨code, hcode, message, rfl⟩ := h
  obtain ⟨helement, hside, hne⟩ := hcodes code hcode
  exact fitsCode_ofElement helement hside (fun _ _ => ⟨id, rfl, hid⟩) (fun heq => absurd heq hne) message

theorem IsOn.fitsCode_edge {id : Option String} (h : i.IsOn .edge id codes)
    (hcodes : ∀ code ∈ codes, code.element? = some .edge ∧ code.side? = none) : i.FitsCode := by
  obtain ⟨code, hcode, message, rfl⟩ := h
  obtain ⟨helement, hside⟩ := hcodes code hcode
  refine fitsCode_ofElement helement hside nofun ?_ message
  rintro rfl
  cases helement

theorem IsOnField.fitsCode (h : i.IsOnField id side field codes) (hid : id ≠ "")
    (hcodes : ∀ code ∈ codes, code.element? = some .node ∧ code.side? = some side ∧ code ≠ .missingNodeId)
    (hfield : ∀ code ∈ codes, code = .invalidOutputDeleted ∨ ∃ name, field = some name) : i.FitsCode := by
  obtain ⟨code, hcode, message, rfl⟩ := h
  obtain ⟨helement, hside, hne⟩ := hcodes code hcode
  exact fitsCode_ofField helement hside hne hid (hfield code hcode) message

theorem IsOfNode.fitsCode (h : i.IsOfNode id) (hid : id ≠ "") : i.FitsCode := by
  cases h with
  | whole h => exact h.fitsCode_node hid (by decide)
  | input field h => exact h.fitsCode hid (by decide) fun _ _ => Or.inr ⟨field, rfl⟩
  | mark field h => exact h.fitsCode hid (by decide) fun _ hcode => Or.inl (List.mem_singleton.mp hcode)
  | output field h => exact h.fitsCode hid (by decide) fun _ _ => Or.inr ⟨field, rfl⟩

end Issue

/-! ### Nodes, edges and circles of a flow -/

section Flow

variable {r : Registry} {o : Options} {flow : Value} {id : String} {i : Issue}

theorem exists_named_of_mem_nodes {n : RawNode} (hn : n ∈ (flowSnapshot flow).nodes) (hid : n.id = some id) :
    ∃ v ∈ flowNodes flow, v.Names "id" id :=
  mem_nodeIds_iff.mp (Snapshot.mem_nodeIds.mpr ⟨n, hn, hid⟩)

theorem exists_named_of_mem_edges {e : RawEdge} (he : e ∈ (flowSnapshot flow).edges) (hid : e.id = some id) :
    ∃ v ∈ flowEdges flow, v.Names "id" id := by
  obtain ⟨k, v, hv, rfl⟩ := mem_readIndexed.mp he
  exact ⟨v, List.mem_of_getElem? hv, Value.filledText?_field_iff.mp hid⟩

/-- A circle of a flow goes through an id, and can be reached from a node. -/
structure IsCircleAt (flow : Value) (id : String) : Prop where
  circle : TransGen (Leads flow) id id
  reached : ∃ n ∈ flowNodes flow, ∃ root, n.Names "id" root ∧ ReflTransGen (Leads flow) root id

theorem isCircleAt_of_mem_foundCircles {c : FoundCircle} (hc : c ∈ (flowSnapshot flow).foundCircles) :
    ∃ id, (cycleIssue c.path).elementId = some id ∧ IsCircleAt flow id := by
  obtain ⟨hroot, -, hcircle, hreached⟩ := foundFrom_sound _ _ c hc
  have hleads : ∀ a b, (flowSnapshot flow).adjacency.Edge a b → Leads flow a b := fun a b hab =>
    links_iff.mp ((flowSnapshot flow).edge_adjacency_iff.mp hab)
  obtain ⟨n, hn, hnid⟩ := Snapshot.mem_nodeIds.mp hroot
  obtain ⟨v, hv, hnames⟩ := exists_named_of_mem_nodes hn hnid
  obtain ⟨a, hhead, hclosed⟩ := hcircle.transGen
  refine ⟨a, hhead, TransGen.mono hleads _ _ hclosed, v, hv, c.root, hnames, ?_⟩
  exact ReflTransGen.mono hleads _ _ (hreached a (List.mem_of_mem_head? hhead)).1

theorem IsCircleAt.exists_from (h : IsCircleAt flow id) : ∃ e ∈ flowEdges flow, e.Names "source" id := by
  obtain ⟨b, ⟨e, he, hsource, -⟩, -⟩ := TransGen.head'_iff.mp h.circle
  exact ⟨e, he, hsource⟩

theorem IsCircleAt.exists_into (h : IsCircleAt flow id) : ∃ e ∈ flowEdges flow, e.Names "target" id := by
  obtain ⟨a, -, e, he, -, htarget⟩ := TransGen.tail'_iff.mp h.circle
  exact ⟨e, he, htarget⟩

/-! ### Every issue has the form of its code -/

theorem Issue.IsAbout.fitsCode (h : i.IsAbout (flowSnapshot flow)) : i.FitsCode := by
  cases h with
  | nameless h => exact h.fitsCode_nameless
  | node n id hn hid h =>
    obtain ⟨v, -, hnames⟩ := exists_named_of_mem_nodes hn hid
    exact h.fitsCode hnames.2
  | edge e he h => exact h.fitsCode_edge (by decide)
  | circle c hc h =>
    obtain ⟨id, hid, hcircle⟩ := isCircleAt_of_mem_foundCircles hc
    obtain ⟨e, -, hsource⟩ := hcircle.exists_from
    have hon : i.IsOn .node id [.circularDependency] := by
      rw [h, ← hid]
      exact Issue.isOn_ofElement (by decide) _
    exact hon.fitsCode_node hsource.2 (by decide)

theorem Issue.IsAbout.isSome_element {s : Snapshot} (h : i.IsAbout s) : i.element.isSome = true := by
  cases h with
  | nameless h =>
    obtain ⟨code, -, message, rfl⟩ := h
    rfl
  | node n id hn hid h =>
    rw [h.names.1]
    rfl
  | edge e he h =>
    obtain ⟨code, -, message, rfl⟩ := h
    rfl
  | circle c hc h =>
    rw [h]
    rfl

/-- An issue of a snapshot is none about what is no flow. -/
theorem Issue.IsAbout.code_not_mem_shapeCodes (h : i.IsAbout (flowSnapshot flow)) : i.code ∉ shapeCodes := by
  have hnone : ∀ code ∈ shapeCodes, code.element? = none := by decide
  intro hcode
  have hsome := h.isSome_element
  rw [h.fitsCode.element, hnone i.code hcode] at hsome
  cases hsome

theorem fitsCode_of_mem_lint {report : Report} (hreport : lint r o flow = .ok report) :
    ∀ i ∈ report, i.FitsCode := by
  rcases lint_eq_ok_cases hreport with ⟨issue, hflow, rfl⟩ | ⟨-, -, rfl⟩
  · obtain ⟨code, hcode, message, rfl⟩ := RawFlow.eq_ofFlow_of_malformed hflow
    have hplace : ∀ code ∈ shapeCodes, code.element? = none ∧ code.side? = none := by decide
    obtain ⟨helement, hside⟩ := hplace code hcode
    exact List.forall_mem_singleton.mpr (Issue.fitsCode_ofFlow helement hside message)
  · exact fun i hi => (Snapshot.issues_isAbout i hi).fitsCode

/-- **The code of an issue says what the issue is like.**  It fixes the severity, the kind of the element
and the side of the field, and with these whether an id is given; what is no flow is reported alone. -/
theorem lint_fitsCode {report : Report} (hreport : lint r o flow = .ok report) :
    (∀ i ∈ report, i.FitsCode) ∧ ∀ i ∈ report, i.code ∈ shapeCodes → report = [i] := by
  refine ⟨fitsCode_of_mem_lint hreport, fun i hi hcode => ?_⟩
  rcases lint_eq_ok_cases hreport with ⟨issue, -, rfl⟩ | ⟨-, -, rfl⟩
  · rw [List.mem_singleton.mp hi]
  · exact absurd hcode (Snapshot.issues_isAbout i hi).code_not_mem_shapeCodes

theorem draftFlow_fitsCode :
    ∃ report, lint .builtin { mode := .node, strict := true } draftFlow = .ok report ∧
      (∀ i ∈ report, i.FitsCode) ∧ (∀ i ∈ report, i.code ∈ shapeCodes → report = [i]) ∧
      report.map (·.code) =
        [.requiredInputEmpty, .invalidOutputDeleted, .missingRequiredInput, .missingRequiredInput] := by
  have hreport : lint .builtin { mode := .node, strict := true } draftFlow =
      .ok ((flowSnapshot draftFlow).issues .builtin { mode := .node, strict := true }) := by
    rw [lint_eq_snapshot ⟨rfl, rfl, rfl⟩]
    exact Snapshot.lint_eq_ok_iff.mpr ⟨by decide +kernel, rfl⟩
  exact ⟨_, hreport, (lint_fitsCode hreport).1, (lint_fitsCode hreport).2, by decide +kernel⟩

/-! ### Every issue points into the flow, or at the start of a circle -/

/-- What an issue names is there: a node of the flow, or an edge of it. -/
structure Issue.PointsInto (flow : Value) (i : Issue) : Prop where
  node : ∀ id, i.element = some .node → i.elementId = some id → ∃ n ∈ flowNodes flow, n.Names "id" id
  edge : ∀ id, i.element = some .edge → i.elementId = some id → ∃ e ∈ flowEdges flow, e.Names "id" id

/-- An issue names an id that no node has.  It is about a circle at that id, and the ends of edges there
are reported as well. -/
structure Issue.PointsAtGhost (flow : Value) (report : Report) (i : Issue) (id : String) : Prop where
  code : i.code = .circularDependency
  named : i.elementId = some id
  ghost : ∀ n ∈ flowNodes flow, ¬ n.Names "id" id
  circle : IsCircleAt flow id
  leaving : ∃ k e, (flowEdges flow)[k]? = some e ∧ e.Names "source" id ∧
    edgeIssue (.ofValue k e) .invalidEdgeSourceNode
      ("Edge references non-existent source node: " ++ id) ∈ report
  entering : ∃ k e, (flowEdges flow)[k]? = some e ∧ e.Names "target" id ∧
    edgeIssue (.ofValue k e) .invalidEdgeTargetNode
      ("Edge references non-existent target node: " ++ id) ∈ report

/-- Issues that are not about nodes by themselves are those of a run over the whole flow. -/
theorem mode_eq_flow_of_mem_issues {s : Snapshot} (hi : i ∈ s.issues r o) (hcode : i.code ∉ nodeCodes) :
    o.mode = .flow := by
  rw [Snapshot.issues] at hi
  rcases List.mem_append.mp hi with hi | hi
  · exact absurd (nodesIssues_bears [] s.nodes i hi).1 hcode
  · exact checksWholeFlow_iff.mp (List.mem_ite_nil_right.mp hi).1

theorem cycleIssue_mem_issues {s : Snapshot} {c : FoundCircle} (hmode : o.mode = .flow)
    (hc : c ∈ s.foundCircles) : cycleIssue c.path ∈ s.issues r o := by
  rw [Snapshot.issues, if_pos (checksWholeFlow_iff.mpr hmode), graphIssues, s.cycleIssues_eq_map]
  exact List.mem_append_right _ (List.mem_append_right _ (List.mem_append_right _ (List.mem_map_of_mem hc)))

theorem mem_edgeIssues_of_no_source {s : Snapshot} {e : RawEdge} (hsource : e.source = some id)
    (h : s.node? id = none) :
    edgeIssue e .invalidEdgeSourceNode ("Edge references non-existent source node: " ++ id) ∈
      edgeIssues r s e := by
  have htext : "Edge references non-existent " ++ "source" ++ " node: " =
      "Edge references non-existent source node: " := by decide
  simp only [edgeIssues, List.mem_append]
  refine Or.inl (Or.inl (Or.inl (Or.inr ?_)))
  rw [hsource, danglingIssues_of_node?_eq_none h, htext]
  exact List.mem_singleton_self _

theorem mem_edgeIssues_of_no_target {s : Snapshot} {e : RawEdge} (htarget : e.target = some id)
    (h : s.node? id = none) :
    edgeIssue e .invalidEdgeTargetNode ("Edge references non-existent target node: " ++ id) ∈
      edgeIssues r s e := by
  have htext : "Edge references non-existent " ++ "target" ++ " node: " =
      "Edge references non-existent target node: " := by decide
  simp only [edgeIssues, List.mem_append]
  refine Or.inl (Or.inl (Or.inr ?_))
  rw [htarget, danglingIssues_of_node?_eq_none h, htext]
  exact List.mem_singleton_self _

theorem Issue.pointsInto_of_node (h : i.element = some .node ∧ i.elementId = some id)
    (hnode : ∃ n ∈ flowNodes flow, n.Names "id" id) : i.PointsInto flow where
  node := by
    intro id' _ hid'
    cases h.2.symm.trans hid'
    exact hnode
  edge := fun _ hedge => by cases h.1.symm.trans hedge

theorem Issue.IsAbout.pointsInto_or (h : i.IsAbout (flowSnapshot flow)) :
    i.PointsInto flow ∨ ∃ id, i.code = .circularDependency ∧ i.elementId = some id ∧
      (∀ n ∈ flowNodes flow, ¬ n.Names "id" id) ∧ IsCircleAt flow id := by
  cases h with
  | nameless h =>
    obtain ⟨code, -, message, rfl⟩ := h
    exact Or.inl ⟨fun _ _ hid => (nomatch hid), fun _ _ hid => (nomatch hid)⟩
  | node n id hn hid h =>
    exact Or.inl (pointsInto_of_node h.names (exists_named_of_mem_nodes hn hid))
  | edge e he h =>
    obtain ⟨code, -, message, rfl⟩ := h
    exact Or.inl ⟨fun _ hnode => (nomatch hnode), fun _ _ hid => exists_named_of_mem_edges he hid⟩
  | circle c hc h =>
    subst h
    obtain ⟨id, hid, hcircle⟩ := isCircleAt_of_mem_foundCircles hc
    by_cases hnode : ∃ n ∈ flowNodes flow, n.Names "id" id
    · exact Or.inl (pointsInto_of_node ⟨rfl, hid⟩ hnode)
    · exact Or.inr ⟨id, rfl, hid, fun n hn hnames => hnode ⟨n, hn, hnames⟩, hcircle⟩

/-- The edges at an id that no node has are reported. -/
theorem dangling_mem_report {report : Report} (hlists : HasLists flow) (hmode : o.mode = .flow)
    (hreport : lint r o flow = .ok report) (hghost : ∀ n ∈ flowNodes flow, ¬ n.Names "id" id) :
    (∀ e ∈ flowEdges flow, e.Names "source" id → ∃ k, (flowEdges flow)[k]? = some e ∧
      edgeIssue (.ofValue k e) .invalidEdgeSourceNode
        ("Edge references non-existent source node: " ++ id) ∈ report) ∧
      ∀ e ∈ flowEdges flow, e.Names "target" id → ∃ k, (flowEdges flow)[k]? = some e ∧
        edgeIssue (.ofValue k e) .invalidEdgeTargetNode
          ("Edge references non-existent target node: " ++ id) ∈ report := by
  have hnone : (flowSnapshot flow).node? id = none := by
    refine node?_eq_none_iff.mpr fun hmem => ?_
    obtain ⟨n, hn, hnames⟩ := mem_nodeIds_iff.mp hmem
    exact hghost n hn hnames
  refine ⟨fun e he hsource => ?_, fun e he htarget => ?_⟩
  · obtain ⟨k, hk⟩ := List.mem_iff_getElem?.mp he
    have hamong := edgeIssues_infix hlists hmode hk hreport
    exact ⟨k, hk, hamong.subset
      (mem_edgeIssues_of_no_source (Value.filledText?_field_iff.mpr hsource) hnone)⟩
  · obtain ⟨k, hk⟩ := List.mem_iff_getElem?.mp he
    have hamong := edgeIssues_infix hlists hmode hk hreport
    exact ⟨k, hk, hamong.subset
      (mem_edgeIssues_of_no_target (Value.filledText?_field_iff.mpr htarget) hnone)⟩

/-- **Every issue points into the flow, or at the start of a circle that no node has.**  The second is so
exactly of the issues that do not point into the flow, and the report says which edges lead there. -/
theorem lint_pointsInto {report : Report} (hreport : lint r o flow = .ok report) :
    ∀ i ∈ report, ¬ i.PointsInto flow ↔ ∃ id, i.PointsAtGhost flow report id := by
  refine fun i hi => ⟨fun hno => ?ghost, fun ⟨id, hghost⟩ hpoints => ?points⟩
  case ghost =>
    rcases lint_eq_ok_cases hreport with ⟨issue, hflow, rfl⟩ | ⟨hlists, -, hissues⟩
    · obtain ⟨code, -, message, rfl⟩ := RawFlow.eq_ofFlow_of_malformed hflow
      cases List.mem_singleton.mp hi
      exact absurd ⟨fun _ hnode => (nomatch hnode), fun _ hedge => (nomatch hedge)⟩ hno
    · rw [hissues] at hi
      have habout := (Snapshot.issues_isAbout i hi).pointsInto_or.resolve_left hno
      obtain ⟨id, hcode, hid, hghost, hcircle⟩ := habout
      have hmode : o.mode = .flow := mode_eq_flow_of_mem_issues hi (by rw [hcode]; decide)
      have hdangling := dangling_mem_report hlists hmode hreport hghost
      obtain ⟨e, he, hsource⟩ := hcircle.exists_from
      obtain ⟨k, hk, hleaving⟩ := hdangling.1 e he hsource
      obtain ⟨e', he', htarget⟩ := hcircle.exists_into
      obtain ⟨k', hk', hentering⟩ := hdangling.2 e' he' htarget
      exact ⟨id, hcode, hid, hghost, hcircle, ⟨k, e, hk, hsource, hleaving⟩,
        ⟨k', e', hk', htarget, hentering⟩⟩
  case points =>
    have hnode : i.element = some .node := by
      rw [(fitsCode_of_mem_lint hreport i hi).element, hghost.code]
      rfl
    obtain ⟨n, hn, hnames⟩ := hpoints.node id hnode hghost.named
    exact hghost.ghost n hn hnames

/-- A listener, an edge to an id that no node has, and an edge from that id to itself. -/
def ghostFlow : Value :=
  .record
    [("nodes", .arr
      [.record
        [("id", .str "news"), ("type", .str "rss_listener_node"),
          ("position", .record [("x", .int 0), ("y", .int 0)]),
          ("inputs", .arr [.record [("id", .str "route"), ("value", .str "daily")]])]]),
      ("edges", .arr
        [.record
          [("id", .str "e1"), ("source", .str "news"), ("sourceHandle", .str "feeds-handle"),
            ("target", .str "ghost"), ("targetHandle", .str "route-handle")],
        .record
          [("id", .str "e2"), ("source", .str "ghost"), ("sourceHandle", .str "feeds-handle"),
            ("target", .str "ghost"), ("targetHandle", .str "route-handle")]])]

theorem ghostFlow_nodes : ∀ n ∈ flowNodes ghostFlow, ¬ n.Names "id" "ghost" := by
  refine List.forall_mem_singleton.mpr fun hnames => ?_
  exact absurd (Value.str.inj hnames.1) (by decide)

theorem lint_ghostFlow :
    lint .builtin {} ghostFlow = .ok ((flowSnapshot ghostFlow).issues .builtin {}) := by
  rw [lint_eq_snapshot ⟨rfl, rfl, rfl⟩]
  exact Snapshot.lint_eq_ok_iff.mpr ⟨by decide +kernel, rfl⟩

theorem ghostFlow_circle :
    ∃ i ∈ (flowSnapshot ghostFlow).issues .builtin {}, i.element = some .node ∧
      i.elementId = some "ghost" := by
  have hleads : Leads ghostFlow "news" "ghost" ∧ Leads ghostFlow "ghost" "ghost" :=
    ⟨⟨_, List.mem_cons_self, ⟨rfl, by decide⟩, ⟨rfl, by decide⟩⟩,
      ⟨_, List.mem_cons_of_mem _ List.mem_cons_self, ⟨rfl, by decide⟩, ⟨rfl, by decide⟩⟩⟩
  have hne : cycleIssues (flowSnapshot ghostFlow) ≠ [] := by
    refine (Snapshot.cycleIssues_ne_nil_iff _).mpr ⟨_, List.mem_cons_self, "news", by decide, "ghost", ?_, ?_⟩
    · exact .single (links_iff.mpr hleads.1)
    · exact .single (links_iff.mpr hleads.2)
  rw [Snapshot.cycleIssues_eq_map, ne_eq, List.map_eq_nil_iff] at hne
  obtain ⟨c, hc⟩ := List.exists_mem_of_ne_nil _ hne
  obtain ⟨id, hid, hcircle⟩ := isCircleAt_of_mem_foundCircles hc
  obtain ⟨e, he, htarget, -⟩ := hcircle.exists_into
  have hghost : ∀ e ∈ flowEdges ghostFlow, e.field "target" = .str "ghost" :=
    List.forall_mem_cons.mpr ⟨rfl, List.forall_mem_singleton.mpr rfl⟩
  rw [hghost e he] at htarget
  cases htarget
  exact ⟨_, cycleIssue_mem_issues rfl hc, rfl, hid⟩

/-- The circle at the end of both edges is reported at a node that is not there. -/
theorem ghostFlow_misplaced :
    ∃ report, lint .builtin {} ghostFlow = .ok report ∧
      ∃ i ∈ report, i.element = some .node ∧ ∃ id, i.elementId = some id ∧
        ∀ n ∈ flowNodes ghostFlow, ¬ n.Names "id" id := by
  obtain ⟨i, hi, helement, hid⟩ := ghostFlow_circle
  exact ⟨_, lint_ghostFlow, i, hi, helement, "ghost", hid, ghostFlow_nodes⟩

theorem ghostFlow_pointsAtGhost :
    ∃ report, lint .builtin {} ghostFlow = .ok report ∧
      ∃ i ∈ report, ∃ id, i.PointsAtGhost ghostFlow report id := by
  obtain ⟨i, hi, helement, hid⟩ := ghostFlow_circle
  refine ⟨_, lint_ghostFlow, i, hi, (lint_pointsInto lint_ghostFlow i hi).mp fun hpoints => ?_⟩
  obtain ⟨n, hn, hnames⟩ := hpoints.node "ghost" helement hid
  exact ghostFlow_nodes n hn hnames

end Flow

end WorkflowCheck
