import WorkflowCheck.Flow.Content
import WorkflowCheck.Proofs.Lint.Handles
import WorkflowCheck.Proofs.Lint.Marks

/-!
# Complaints before saving

What is wrong with a flow that is to be saved (`Flow.saveProblems`) is also reported by a run over the whole
flow.  The ids that are repeated are those of the issues of repeated ids, in their order
(`Report.repeatedNodes`), and the ends of edges that are no nodes are those of the issues about them, edge by
edge (`Report.missedEnds`).  Of one edge the two come in the same order but for an edge that has no target
and leaves a node that is not there (`Flow.ChecksAgree`).
-/

namespace WorkflowCheck

/-! ### The ends of edges -/

/-- An end of an edge. -/
inductive EdgeEnd where
  | source | target
  deriving DecidableEq, Repr

namespace EdgeEnd

/-- The words that name the node at an end. -/
def words : EdgeEnd → String
  | .source => "source node: "
  | .target => "target node: "

/-- The id that an edge has at an end. -/
def id (e : StoredEdge) : EdgeEnd → String
  | .source => e.source
  | .target => e.target

/-- What is said before saving of an end that is no node. -/
def complaint (index : Nat) (e : StoredEdge) (side : EdgeEnd) : String :=
  "Edge at index " ++ toString index ++ " references non-existent " ++ side.words ++ side.id e

end EdgeEnd

/-- The end of an edge that the issues of a code say is no node. -/
def IssueCode.missedEnd? : IssueCode → Option EdgeEnd
  | .missingEdgeSource | .invalidEdgeSourceNode => some .source
  | .missingEdgeTarget | .invalidEdgeTargetNode => some .target
  | _ => none

theorem IssueCode.severity_of_missedEnd? {code : IssueCode} (h : code.missedEnd?.isSome) :
    code.severity = .error := by
  revert h
  cases code <;> decide

/-- The ends that a report says are no nodes, in the order of its issues. -/
def Report.missedEnds (report : Report) : List EdgeEnd :=
  report.filterMap (·.code.missedEnd?)

/-- The ids that a report says are repeated, in the order of its issues. -/
def Report.repeatedNodes (report : Report) : List String :=
  (report.only .duplicateNodeId).filterMap (·.elementId)

/-- The issues of an edge of a flow. -/
def Flow.edgeReport (x : Flow) (r : Registry) (index : Nat) (e : StoredEdge) : Report :=
  edgeIssues r (flowSnapshot x.storedWire) (.ofValue index (e.write .wire))

/-- What is complained about before saving, and what a report of the flow says. -/
structure Flow.ChecksAgree (x : Flow) (r : Registry) (report : Report) : Prop where
  /-- The ids and the ends that are complained about are those that are reported. -/
  problems : x.saveProblems =
    (if (Text.stripBy Text.isBlank x.name.toList).isEmpty then ["Flow name is required"] else [])
      ++ (if x.nodes.isEmpty then ["Flow must contain at least one node"] else [])
      ++ report.repeatedNodes.map ("Duplicate node id: " ++ ·)
      ++ x.edges.zipIdx.flatMap fun (e, index) =>
        ([.source, .target].filter (· ∈ (x.edgeReport r index e).missedEnds)).map (EdgeEnd.complaint index e)
  /-- The ends are reported edge by edge. -/
  ends : report.missedEnds = x.edges.zipIdx.flatMap fun (e, index) => (x.edgeReport r index e).missedEnds
  among : ∀ index e, x.edges[index]? = some e → x.edgeReport r index e <:+: report
  /-- An end is reported exactly if it is no node. -/
  missed : ∀ index e side, side ∈ (x.edgeReport r index e).missedEnds ↔ side.id e ∉ x.nodes.map (·.id)
  /-- The source is reported before the target, unless it is there and no node, and the target is empty. -/
  order : ∀ index e, (x.edgeReport r index e).missedEnds =
    if e.source ≠ "" ∧ e.source ∉ x.nodes.map (·.id) ∧ e.target = "" then [.target, .source]
    else [.source, .target].filter fun side => side.id e ∉ x.nodes.map (·.id)

open Report (only only_append only_eq_among only_eq_nil missedEnds repeatedNodes)

/-! ### What a report says of ends -/

section Ends

variable {xs ys : Report} {codes : List IssueCode} {s : Snapshot} {r : Registry} {e : RawEdge}
  {name : String} {code : IssueCode} {text : String}

theorem missedEnds_append : missedEnds (xs ++ ys) = missedEnds xs ++ missedEnds ys :=
  List.filterMap_append

theorem missedEnds_eq_nil (h : ∀ i ∈ xs, i.Bears codes) (hcodes : ∀ code ∈ codes, code.missedEnd? = none) :
    missedEnds xs = [] :=
  List.filterMap_eq_nil_iff.mpr fun i hi => hcodes i.code (h i hi).1

theorem missedEnds_absentIssues :
    missedEnds (absentIssues e (Value.str text).filledText? name code) =
      if text = "" then code.missedEnd?.toList else [] := by
  by_cases h : text = ""
  · rw [if_pos h, h]
    rfl
  · rw [if_neg h, Value.filledText?_str h]
    rfl

theorem missedEnds_danglingIssues :
    missedEnds (danglingIssues s e (Value.str text).filledText? name code) =
      if text = "" ∨ (s.node? text).isSome then [] else code.missedEnd?.toList := by
  by_cases h : text = ""
  · rw [if_pos (Or.inl h), h]
    rfl
  · rw [Value.filledText?_str h, danglingIssues]
    by_cases hnode : (s.node? text).isSome = true
    · rw [if_pos hnode, if_pos (Or.inr hnode)]
      rfl
    · rw [if_neg hnode, if_neg (not_or_intro h hnode)]
      rfl

theorem missedEnds_handleIssues {ending handle : Option String} {handles : RawNode → List String}
    (hsevere : code.severity = .error) (hcode : code.missedEnd? = none) :
    missedEnds (handleIssues s e ending handle handles name code) = [] :=
  missedEnds_eq_nil (fun i hi => (handleIssues_isOn hsevere i hi).bears)
    (List.forall_mem_singleton.mpr hcode)

/-- The missing ends of an edge come first, then those that are no nodes. -/
theorem missedEnds_edgeIssues {e : StoredEdge} {index : Nat} :
    missedEnds (edgeIssues r s (.ofValue index (e.write .wire))) =
      (if e.source = "" then [.source] else []) ++ (if e.target = "" then [.target] else [])
        ++ (if e.source = "" ∨ (s.node? e.source).isSome then [] else [.source])
        ++ (if e.target = "" ∨ (s.node? e.target).isSome then [] else [.target]) := by
  have hout : IssueCode.invalidEdgeSourceHandle.missedEnd? = none := rfl
  have hin : IssueCode.invalidEdgeTargetHandle.missedEnd? = none := rfl
  rw [e.ofValue_write, edgeIssues]
  simp only [missedEnds_append, missedEnds_absentIssues, missedEnds_danglingIssues,
    missedEnds_handleIssues rfl hout, missedEnds_handleIssues rfl hin, IssueCode.missedEnd?, Option.toList, ite_self,
    List.append_nil]

variable {e : StoredEdge} {index : Nat} {ids : List String}

theorem mem_missedEnds_edgeIssues (hids : ∀ id, (s.node? id).isSome ↔ id ∈ ids) (hfilled : "" ∉ ids)
    (side : EdgeEnd) :
    side ∈ missedEnds (edgeIssues r s (.ofValue index (e.write .wire))) ↔ side.id e ∉ ids := by
  rw [missedEnds_edgeIssues]
  simp only [hids, List.mem_append, List.mem_ite_nil_right, List.mem_ite_nil_left, List.mem_singleton]
  cases side with
  | source =>
    by_cases h : e.source = ""
    · simp [EdgeEnd.id, h, hfilled]
    · simp [EdgeEnd.id, h]
  | target =>
    by_cases h : e.target = ""
    · simp [EdgeEnd.id, h, hfilled]
    · simp [EdgeEnd.id, h]

theorem missedEnds_edgeIssues_eq (hids : ∀ id, (s.node? id).isSome ↔ id ∈ ids) (hfilled : "" ∉ ids) :
    missedEnds (edgeIssues r s (.ofValue index (e.write .wire))) =
      if e.source ≠ "" ∧ e.source ∉ ids ∧ e.target = "" then [.target, .source]
      else [.source, .target].filter fun side => side.id e ∉ ids := by
  rw [missedEnds_edgeIssues]
  simp only [hids]
  -- the presence of both ends is checked first, so the order depends on which of them are empty
  by_cases hsource : e.source = "" <;> by_cases htarget : e.target = ""
  · simp [EdgeEnd.id, hsource, htarget, hfilled]
  · by_cases hmem : e.target ∈ ids <;> simp [EdgeEnd.id, hsource, htarget, hfilled, hmem]
  · by_cases hmem : e.source ∈ ids <;> simp [EdgeEnd.id, hsource, htarget, hfilled, hmem]
  · by_cases hmem : e.source ∈ ids <;> by_cases hmem' : e.target ∈ ids <;>
      simp [EdgeEnd.id, hsource, htarget, hmem, hmem']

end Ends

/-! ### What a report says of repeated ids -/

section Repeats

variable {xs ys : Report} {codes : List IssueCode} {r : Registry} {o : Options} {s : Snapshot}
  {n : RawNode} {id : String}

theorem repeatedNodes_append : repeatedNodes (xs ++ ys) = repeatedNodes xs ++ repeatedNodes ys := by
  rw [repeatedNodes, only_append, List.filterMap_append]
  rfl

theorem repeatedNodes_eq_nil (h : ∀ i ∈ xs, i.Bears codes) (hcode : .duplicateNodeId ∉ codes) :
    repeatedNodes xs = [] := by
  rw [repeatedNodes, only_eq_nil h hcode]
  rfl

theorem repeatedNodes_nodeIssues (hid : n.id = some id) (repeated : Bool) :
    repeatedNodes (nodeIssues r o s repeated n) = if repeated then [id] else [] := by
  rw [repeatedNodes, only_repeated_nodeIssues, hid]
  cases repeated <;> rfl

/-- The ids that are complained about are those that are reported.  Of the ids met before only their being
met counts. -/
theorem repeatedIds_eq_map :
    ∀ (ns : List RawNode) (seen met : List String), (∀ id, id ∈ seen ↔ id ∈ met) →
      Flow.repeatedIds seen (ns.filterMap (·.id)) =
        (repeatedNodes (nodesIssues r o s met ns)).map ("Duplicate node id: " ++ ·)
  | [], _, _, _ => rfl
  | n :: ns, seen, met, h => by
    cases hid : n.id with
    | none =>
      rw [List.filterMap_cons_none hid, repeatedIds_eq_map ns seen met h, nodesIssues, nodeIssues_of_no_id hid,
        hid]
      rfl
    | some id =>
      have hrepeated : n.id.any (· ∈ met) = decide (id ∈ seen) := by
        rw [hid, Option.any_some]
        exact decide_eq_decide.mpr (h id).symm
      have hnext : n.id.toList ++ met = id :: met := by
        rw [hid]
        rfl
      rw [List.filterMap_cons_some hid, Flow.repeatedIds, nodesIssues, repeatedNodes_append,
        repeatedNodes_nodeIssues hid, hrepeated, hnext]
      by_cases hmem : id ∈ seen
      · have hseen : ∀ id', id' ∈ seen ↔ id' ∈ id :: met := by
          intro id'
          rw [List.mem_cons, ← h]
          exact ⟨Or.inr, fun h' => h'.elim (fun heq => heq ▸ hmem) fun h' => h'⟩
        rw [if_pos hmem, if_pos (decide_eq_true hmem), repeatedIds_eq_map ns seen _ hseen]
        rfl
      · have hseen : ∀ id', id' ∈ id :: seen ↔ id' ∈ id :: met := by
          intro id'
          rw [List.mem_cons, List.mem_cons, h]
        rw [if_neg hmem, decide_eq_false hmem, repeatedIds_eq_map ns (id :: seen) _ hseen]
        rfl

end Repeats

/-! ### Whole flows -/

namespace Flow

variable {x : Flow} {r : Registry} {o : Options}

theorem nodeIds_storedWire (hids : x.kept.HasIds) :
    (flowSnapshot x.storedWire).nodes.filterMap (·.id) = x.nodes.map (·.id) := by
  have hkept : x.nodes.map (·.id) = x.kept.nodes.map (·.id) := by
    cases x <;> simp [nodes, kept, EditorFlow.kept, FlowOf.map, EditorNode.toStored, NodeOf.map]
  have hwritten : (flowSnapshot (x.kept.write .wire)).nodes =
      readIndexed RawNode.ofValue (x.kept.nodes.map (StoredNode.write .wire)) := by
    rw [StoredFlow.write, FlowOf.flowSnapshot_write]
    rfl
  rw [flowSnapshot_storedWire, hwritten, hkept, List.filterMap_eq_flatMap_toList,
    ← List.flatMap_singleton' (x.kept.nodes.map (·.id)), List.flatMap_map]
  refine flatMap_readIndexed _ fun index n hn => ?_
  have hid : (RawNode.ofValue index (n.write .wire)).id = some n.id :=
    (congrArg RawNode.id (n.ofValue_write index)).trans (filledText?_of_isFilled (hids n hn).id)
  rw [hid]
  rfl

theorem flowEdges_storedWire : flowEdges x.storedWire = x.edges.map (StoredEdge.write .wire) := by
  cases x with
  | stored f =>
    rw [flowEdges, storedWire, StoredFlow.write, FlowOf.field_edges_write]
    rfl
  | editor f =>
    rw [flowEdges, storedWire, StoredFlow.write, FlowOf.field_edges_write]
    exact congrArg (List.map (StoredEdge.write .wire)) (List.map_id _)

theorem edges_storedWire :
    (flowSnapshot x.storedWire).edges = x.edges.zipIdx.map fun (e, index) => .ofValue index (e.write .wire) := by
  show readIndexed RawEdge.ofValue (flowEdges x.storedWire) = _
  rw [flowEdges_storedWire, readIndexed, List.mapIdx_eq_zipIdx_map, List.zipIdx_map, List.map_map]
  rfl

theorem danglingEnds_eq (ids : List String) (index : Nat) (e : StoredEdge) :
    danglingEnds ids index e =
      ([.source, .target].filter fun side => side.id e ∉ ids).map (EdgeEnd.complaint index e) := by
  have hside : ∀ side : EdgeEnd, (if side.id e ∈ ids then [] else [EdgeEnd.complaint index e side]) =
      ([side].filter fun side => side.id e ∉ ids).map (EdgeEnd.complaint index e) := by
    intro side
    by_cases h : side.id e ∈ ids <;> simp [h]
  have hends : danglingEnds ids index e =
      (if EdgeEnd.source.id e ∈ ids then [] else [EdgeEnd.complaint index e .source])
        ++ (if EdgeEnd.target.id e ∈ ids then [] else [EdgeEnd.complaint index e .target]) := rfl
  rw [hends, hside, hside, ← List.map_append, ← List.filter_append]
  rfl

theorem node?_storedWire_iff (hids : x.kept.HasIds) (id : String) :
    ((flowSnapshot x.storedWire).node? id).isSome ↔ id ∈ x.nodes.map (·.id) := by
  rw [← nodeIds_storedWire hids, ← not_iff_not, Option.not_isSome_iff_eq_none]
  exact node?_eq_none_iff

theorem empty_not_mem_nodes (hids : x.kept.HasIds) : "" ∉ x.nodes.map (·.id) := by
  rw [← nodeIds_storedWire hids, mem_nodeIds_iff]
  rintro ⟨v, -, hnames⟩
  exact hnames.2 rfl

variable {report : Report}

theorem repeatedNodes_report (hreport : (flowSnapshot x.storedWire).issues r o = report)
    (hids : x.kept.HasIds) :
    repeatedIds [] (x.nodes.map (·.id)) = report.repeatedNodes.map ("Duplicate node id: " ++ ·) := by
  have hwhole : repeatedNodes (if o.checksWholeFlow then
      (flowSnapshot x.storedWire).edges.flatMap (edgeIssues r (flowSnapshot x.storedWire))
        ++ graphIssues (flowSnapshot x.storedWire) else []) = [] := by
    split
    · rw [repeatedNodes_append, repeatedNodes_eq_nil flatMap_edgeIssues_bears (by decide),
        repeatedNodes_eq_nil graphIssues_bears (by decide)]
      rfl
    · rfl
  rw [← nodeIds_storedWire hids, repeatedIds_eq_map _ [] [] fun id => Iff.rfl, ← hreport, Snapshot.issues,
    repeatedNodes_append, hwhole, List.append_nil]

theorem missedEnds_report (hreport : (flowSnapshot x.storedWire).issues r o = report)
    (hmode : o.mode = .flow) :
    report.missedEnds = x.edges.zipIdx.flatMap fun (e, index) => (x.edgeReport r index e).missedEnds := by
  rw [← hreport, Snapshot.issues, if_pos (checksWholeFlow_iff.mpr hmode), missedEnds_append, missedEnds_append,
    missedEnds_eq_nil (nodesIssues_bears [] _) (by decide), missedEnds_eq_nil graphIssues_bears (by decide),
    List.nil_append, List.append_nil, edges_storedWire, List.flatMap_map, missedEnds, List.filterMap_flatMap]
  rfl

theorem mem_missedEnds_edgeReport (hids : x.kept.HasIds) (index : Nat) (e : StoredEdge) (side : EdgeEnd) :
    side ∈ (x.edgeReport r index e).missedEnds ↔ side.id e ∉ x.nodes.map (·.id) :=
  mem_missedEnds_edgeIssues (node?_storedWire_iff hids) (empty_not_mem_nodes hids) side

theorem checksAgree (hids : x.kept.HasIds) (hmode : o.mode = .flow)
    (hreport : lint r o x.storedWire = .ok report) : x.ChecksAgree r report := by
  have hlists : HasLists x.storedWire := by
    cases x with
    | stored f => exact f.hasLists_write
    | editor f => exact f.toStored.hasLists_write
  have hissues : (flowSnapshot x.storedWire).issues r o = report :=
    (Snapshot.lint_eq_ok_iff.mp ((lint_eq_snapshot hlists).symm.trans hreport)).2
  exact {
    problems := by
      have hends : ∀ e index, danglingEnds (x.nodes.map (·.id)) index e =
          ([.source, .target].filter (· ∈ (x.edgeReport r index e).missedEnds)).map
            (EdgeEnd.complaint index e) := by
        intro e index
        simp only [danglingEnds_eq, mem_missedEnds_edgeReport hids]
      simp only [saveProblems, ← List.flatMap_def, repeatedNodes_report hissues hids, hends, List.isEmpty_map]
    ends := missedEnds_report hissues hmode
    among := by
      intro index e he
      refine edgeIssues_infix hlists hmode ?_ hreport
      rw [flowEdges_storedWire, List.getElem?_map, he]
      rfl
    missed := mem_missedEnds_edgeReport hids
    order := fun index e =>
      missedEnds_edgeIssues_eq (node?_storedWire_iff hids) (empty_not_mem_nodes hids) }

/-- Of a flow with a name and with nodes nothing is complained about unless it is reported as an error. -/
theorem ChecksAgree.saveProblems_eq_nil (h : x.ChecksAgree r report)
    (hseverity : ∀ i ∈ report, i.severity = i.code.severity)
    (hname : (Text.stripBy Text.isBlank x.name.toList).isEmpty = false) (hnodes : x.nodes ≠ [])
    (hclean : ∀ i ∈ report, i.severity ≠ .error) : x.saveProblems = [] := by
  have hcode : ∀ code : IssueCode, code.severity = .error → ∀ i ∈ report, i.code ≠ code := by
    rintro _ herror i hi rfl
    exact hclean i hi ((hseverity i hi).trans herror)
  have hrepeated : report.repeatedNodes = [] := by
    have honly : report.only .duplicateNodeId = [] :=
      List.filter_eq_nil_iff.mpr fun i hi his => hcode _ rfl i hi (of_decide_eq_true his)
    rw [repeatedNodes, honly]
    rfl
  have hends : report.missedEnds = [] := by
    refine List.filterMap_eq_nil_iff.mpr fun i hi => Option.not_isSome_iff_eq_none.mp fun hmissed => ?_
    exact hcode i.code (IssueCode.severity_of_missedEnd? hmissed) i hi rfl
  have hedges : ∀ e index, (e, index) ∈ x.edges.zipIdx → (x.edgeReport r index e).missedEnds = [] := by
    rw [h.ends, List.flatMap_eq_nil_iff] at hends
    exact fun e index he => hends (e, index) he
  rw [h.problems, hname, hrepeated, List.isEmpty_eq_false_iff.mpr hnodes]
  refine List.flatMap_eq_nil_iff.mpr fun (e, index) he => ?_
  dsimp only
  rw [hedges e index he]
  rfl

/-- **What is complained about before saving is reported.**  A flow in either view has a report, which
names the same repeated ids and the same ends of edges, in the same order of ids and of edges; so a flow with
a name and with nodes that has no errors in its report can be saved. -/
theorem saveProblems_reported (x : Flow) (hids : x.kept.HasIds) (r : Registry) (o : Options)
    (hmode : o.mode = .flow) :
    ∃ report, lint r o x.storedWire = .ok report ∧ x.ChecksAgree r report ∧
      ((Text.stripBy Text.isBlank x.name.toList).isEmpty = false → x.nodes ≠ [] →
        (∀ i ∈ report, i.severity ≠ .error) → x.saveProblems = []) := by
  obtain ⟨report, hreport⟩ := StoredFlow.exists_lint (r := r) (o := o) x.kept
  rw [← lint_storedWire] at hreport
  have hagree := checksAgree hids hmode hreport
  exact ⟨report, hreport, hagree, hagree.saveProblems_eq_nil (severity_of_mem_lint hreport)⟩

/-- Some listeners of one id, and some edges. -/
def looseFlow (count : Nat) (edges : List StoredEdge) : StoredFlow :=
  let route : StoredInput :=
    { id := "route", title := "", type := .text, control := .text, required := false, placeholder := "",
      handle := none, value := .str "daily", choices := none, min := none, max := none }
  let listener : StoredNode :=
    ⟨"news", "rss_listener_node", ⟨.finite false 0, .finite false 0⟩, none, ⟨"", "", .core, [route], []⟩⟩
  ⟨"News", none, List.replicate count listener, edges⟩

/-- An edge from a node that is not there. -/
def ghostEdge (target : String) : StoredEdge :=
  ⟨"e1", "ghost", target, "feeds-handle", "route-handle"⟩

theorem looseFlow_hasIds (count : Nat) (edges : List StoredEdge) : (looseFlow count edges).HasIds := by
  intro n hn
  cases List.eq_of_mem_replicate hn
  have hroute : Decode.IsFilled "route" := ⟨by decide, by decide⟩
  exact ⟨⟨by decide, by decide⟩, ⟨by decide, by decide⟩,
    ⟨List.forall_mem_singleton.mpr hroute, List.forall_mem_nil _⟩⟩

theorem lint_looseFlow_clean : lint .builtin {} ((looseFlow 1 []).write .wire) = .ok [] := by
  have hedges : (flowSnapshot ((looseFlow 1 []).write .wire)).edges = [] := rfl
  refine (lint_eq_snapshot (looseFlow 1 []).hasLists_write).trans (Snapshot.lint_eq_ok_iff.mpr ⟨?_, ?_⟩)
  · decide +kernel
  · rw [Snapshot.issues, if_pos (checksWholeFlow_iff.mpr rfl), hedges, graphIssues,
      Snapshot.cycleIssues_of_no_edges hedges]
    decide +kernel

theorem looseFlow_saveProblems :
    (∃ report,
      lint .builtin {} (Flow.stored (looseFlow 2 [ghostEdge "news"])).storedWire = .ok report ∧
        (Flow.stored (looseFlow 2 [ghostEdge "news"])).ChecksAgree .builtin report ∧
        (Flow.stored (looseFlow 2 [ghostEdge "news"])).saveProblems =
          ["Duplicate node id: news", "Edge at index 0 references non-existent source node: ghost"]) ∧
      (Flow.stored (looseFlow 1 [])).saveProblems = [] := by
  constructor
  · obtain ⟨report, hreport, hagree, -⟩ :=
      saveProblems_reported (.stored (looseFlow 2 [ghostEdge "news"])) (looseFlow_hasIds _ _) .builtin {} rfl
    exact ⟨report, hreport, hagree, by decide +kernel⟩
  · obtain ⟨report, hreport, -, hclean⟩ :=
      saveProblems_reported (.stored (looseFlow 1 [])) (looseFlow_hasIds _ _) .builtin {} rfl
    cases hreport.symm.trans lint_looseFlow_clean
    exact hclean (by decide +kernel) (List.cons_ne_nil _ _) (List.forall_mem_nil _)

/-- The source that is not there is complained about before the missing target, and reported behind it. -/
theorem looseFlow_order :
    StoredFlow.read ((looseFlow 1 [ghostEdge ""]).write .wire) = .valid (looseFlow 1 [ghostEdge ""]) ∧
      (Flow.stored (looseFlow 1 [ghostEdge ""])).saveProblems =
        ["Edge at index 0 references non-existent source node: ghost",
          "Edge at index 0 references non-existent target node: "] ∧
      ∃ report, lint .builtin {} (Flow.stored (looseFlow 1 [ghostEdge ""])).storedWire = .ok report ∧
        report.missedEnds = [.target, .source] := by
  have hids : (looseFlow 1 [ghostEdge ""]).HasIds := looseFlow_hasIds _ _
  obtain ⟨report, hreport⟩ := StoredFlow.exists_lint (r := .builtin) (o := {}) (looseFlow 1 [ghostEdge ""])
  have hagree : (Flow.stored (looseFlow 1 [ghostEdge ""])).ChecksAgree .builtin report :=
    checksAgree hids rfl hreport
  refine ⟨StoredFlow.read_write .wire hids, by decide +kernel, report, hreport, ?_⟩
  rw [hagree.ends]
  decide +kernel

end Flow

end WorkflowCheck
