import Mathlib.Data.List.NodupEquivFin
import WorkflowCheck.Proofs.Lint.Handles
import WorkflowCheck.Proofs.Lint.Reordered
import WorkflowCheck.Proofs.Lint.Switches

/-!
# Further edges

An edge can be drawn between any others (`AddsEdges`).  It may feed an input and connect a node, so
warnings of isolation and issues of empty required inputs can disappear, and nothing else that is said of
nodes.  The edges that were there keep their issues, apart from the place that a message names.  Of circles
others may be met first, and more or fewer of them, but where one was met there still is one
(`lint_addsEdges`).
-/

namespace WorkflowCheck

open Relation

open Report (among among_append among_eq_nil among_eq_self only only_append only_eq_nil only_eq_self)

/-! ### Snapshots with further edges -/

namespace Snapshot

/-- The second snapshot has the nodes of the first one and finds the same ones, and its edges feed, name and
link whatever those of the first one do. -/
structure Extends (s s' : Snapshot) : Prop where
  nodes : s'.nodes = s.nodes
  found : ∀ id, s'.node? id = s.node? id
  fed : ∀ id field, isConnected s id field = true → isConnected s' id field = true
  named : s.connectedIds ⊆ s'.connectedIds
  links : ∀ a b, s.Links a b → s'.Links a b

end Snapshot

/-- The codes of the issues of edges that name the place of the edge. -/
def absentCodes : List IssueCode :=
  [.missingEdgeSource, .missingEdgeSourceHandle, .missingEdgeTarget, .missingEdgeTargetHandle]

/-- The two issues are those of one edge at two places: a missing part is reported with the place, and all
else is the same. -/
inductive Issue.Moved (k k' : Nat) : Issue → Issue → Prop
  | absent {code : IssueCode} {id : Option String} {name : String} : code ∈ absentCodes →
      Moved k k'
        (.ofElement .error code .edge id
          ("Edge at index " ++ toString k ++ " is missing required field: " ++ name))
        (.ofElement .error code .edge id
          ("Edge at index " ++ toString k' ++ " is missing required field: " ++ name))
  | same {i : Issue} : i.code ∉ absentCodes → Moved k k' i i

section Rules

variable {r : Registry} {o : Options} {s s' : Snapshot} {n : RawNode} {id : String} {c : Contract}

/-! ### Nodes -/

theorem requiredIssues_extends (h : s.Extends s') (required : String) :
    Adds [.requiredInputEmpty] (requiredIssues o s' n id required) (requiredIssues o s n id required) := by
  rw [requiredIssues, requiredIssues]
  cases n.findInput? required with
  | none => exact .refl _
  | some i =>
    refine .ite (fun hempty => ?_) (List.mem_singleton_self _)
    obtain ⟨hunset, hfree⟩ := Bool.and_eq_true_iff.mp hempty
    rw [Bool.not_eq_true', Bool.eq_false_iff] at hfree
    rw [hunset, Bool.true_and, Bool.not_eq_true', Bool.eq_false_iff]
    intro hfed
    exact hfree (h.fed id required hfed)

theorem formIssues_extends (h : s.Extends s') (repeated : Bool) :
    Adds [.requiredInputEmpty] (formIssues r o s' repeated n id) (formIssues r o s repeated n id) := by
  rw [formIssues, formIssues]
  refine .append (.refl _) ?_
  cases r.checkedContract? n with
  | none => exact .nil
  | some c =>
    refine .append (.append (.flatMap fun required _ => ?_) (.refl _)) (.refl _)
    exact requiredIssues_extends h required

theorem nodesIssues_extends (h : s.Extends s') (seen : List String) (ns : List RawNode) :
    Adds [.requiredInputEmpty] (nodesIssues r o s' seen ns) (nodesIssues r o s seen ns) :=
  .nodesIssues o o rfl rfl h.nodes seen ns fun _ _ repeated _ => formIssues_extends h repeated

theorem Snapshot.Extends.error?_eq (h : s.Extends s') : s'.error? r o = s.error? r o := by
  have hnode : s'.nodeError? r o = s.nodeError? r o := by
    funext n
    rw [nodeError?, nodeError?, meetsOversized, meetsOversized, h.nodes]
  rw [error?, error?, hnode, h.nodes]

/-! ### The graph -/

theorem isolationIssues_extends (h : s.Extends s') :
    (isolationIssues s').Sublist (isolationIssues s) := by
  rw [isolationIssues, isolationIssues, h.nodes]
  split_ifs
  · exact .slnil
  · refine (List.monotone_filter_right _ fun id hid => ?_).map _
    rw [decide_eq_true_eq] at hid ⊢
    intro hnamed
    exact hid (h.named hnamed)

/-- A node from which a circle can be reached still reaches it. -/
theorem cycleIssues_extends (h : s.Extends s') (hne : cycleIssues s ≠ []) : cycleIssues s' ≠ [] := by
  rw [Snapshot.cycleIssues_ne_nil_iff] at hne ⊢
  obtain ⟨n, hn, id, hid, hcircle⟩ := hne
  rw [h.nodes]
  exact ⟨n, hn, id, hid, hcircle.mono h.links⟩

/-! ### Edges at other places -/

theorem absentIssues_moved {e e' : RawEdge} {name : String} {code : IssueCode} (hid : e.id = e'.id)
    (hcode : code ∈ absentCodes) (part : Option String) :
    List.Forall₂ (Issue.Moved e.index e'.index) (absentIssues e part name code)
      (absentIssues e' part name code) := by
  rw [absentIssues, absentIssues, edgeIssue, edgeIssue, hid]
  split_ifs
  · exact .cons (.absent hcode) .nil
  · exact .nil

/-- Issues of other codes do not name the place. -/
theorem forall₂_moved_same {k k' : Nat} {code : IssueCode} {id : Option String} {issues : List Issue}
    (h : ∀ i ∈ issues, i.IsOn .edge id [code]) (hcode : code ∉ absentCodes) :
    List.Forall₂ (Issue.Moved k k') issues issues := by
  refine List.forall₂_same.mpr fun i hi => .same ?_
  rw [List.mem_singleton.mp (h i hi).bears.1]
  exact hcode

/-- An edge that finds the same nodes has the same issues at another place. -/
theorem edgeIssues_moved (hfound : ∀ id, s'.node? id = s.node? id) (k k' : Nat) (e : Value) :
    List.Forall₂ (Issue.Moved k k') (edgeIssues r s (.ofValue k e)) (edgeIssues r s' (.ofValue k' e)) := by
  have hkeys : ∀ id, (s.node? id).map (fun n => n) = (s'.node? id).map fun n => n := by
    intro id
    rw [hfound]
  have hid : (RawEdge.ofValue k e).id = (RawEdge.ofValue k' e).id := rfl
  rw [edgeIssues, edgeIssues, danglingIssues_congr hkeys hid, danglingIssues_congr hkeys hid,
    handleIssues_congr hkeys hid _ _ fun n => rfl, handleIssues_congr hkeys hid _ _ fun n => rfl]
  refine List.rel_append (List.rel_append (List.rel_append (List.rel_append (List.rel_append (List.rel_append
    (List.rel_append ?_ ?_) ?_) ?_) ?_) ?_) ?_) ?_
  · exact absentIssues_moved hid (by decide) _
  · exact absentIssues_moved hid (by decide) _
  · exact absentIssues_moved hid (by decide) _
  · exact absentIssues_moved hid (by decide) _
  · exact forall₂_moved_same (danglingIssues_isOn (by decide)) (by decide)
  · exact forall₂_moved_same (danglingIssues_isOn (by decide)) (by decide)
  · exact forall₂_moved_same (handleIssues_isOn (by decide)) (by decide)
  · exact forall₂_moved_same (handleIssues_isOn (by decide)) (by decide)

end Rules

/-! ### The parts of a report -/

section Parts

variable {r : Registry} {o : Options} {s : Snapshot}

theorem Snapshot.among_nodeCodes :
    among nodeCodes (s.issues r o) = nodesIssues r o s [] s.nodes := by
  have hwhole : among nodeCodes
      (if o.checksWholeFlow then s.edges.flatMap (edgeIssues r s) ++ graphIssues s else []) = [] := by
    split_ifs
    · rw [among_append, among_eq_nil flatMap_edgeIssues_bears (by decide),
        among_eq_nil graphIssues_bears (by decide), List.append_nil]
    · rfl
  rw [issues, among_append, hwhole, List.append_nil, among_eq_self (nodesIssues_bears [] s.nodes)]

theorem Snapshot.among_edgeCodes (hmode : o.mode = .flow) :
    among edgeCodes (s.issues r o) = s.edges.flatMap (edgeIssues r s) := by
  rw [issues, if_pos (checksWholeFlow_iff.mpr hmode), among_append, among_append,
    among_eq_nil (nodesIssues_bears [] s.nodes) (by decide), among_eq_self flatMap_edgeIssues_bears,
    among_eq_nil graphIssues_bears (by decide), List.append_nil, List.nil_append]

theorem Snapshot.only_isolatedNode (hmode : o.mode = .flow) :
    only .isolatedNode (s.issues r o) = isolationIssues s := by
  rw [issues, if_pos (checksWholeFlow_iff.mpr hmode), graphIssues, only_append, only_append, only_append,
    only_eq_nil (nodesIssues_bears [] s.nodes) (by decide), only_eq_nil flatMap_edgeIssues_bears (by decide),
    only_eq_self isolationIssues_bears, only_eq_nil cycleIssues_bears (by decide), List.append_nil,
    List.nil_append, List.nil_append]

end Parts

/-! ### Flows with further edges -/

/-- The second flow has the nodes of the first one and its edges, with further edges in between. -/
structure AddsEdges (flow flow' : Value) : Prop where
  lists : HasLists flow
  lists' : HasLists flow'
  nodes : flowNodes flow' = flowNodes flow
  edges : (flowEdges flow).Sublist (flowEdges flow')

/-- The issues of the edges of a flow, a block for each. -/
def edgeBlocks (r : Registry) (flow : Value) : List (List Issue) :=
  (flowSnapshot flow).edges.map (edgeIssues r (flowSnapshot flow))

section Flows

variable {r : Registry} {o : Options} {flow flow' : Value}

theorem exists_kept_edge (hedges : (flowEdges flow).Sublist (flowEdges flow')) :
    ∀ e ∈ (flowSnapshot flow).edges, ∃ e' ∈ (flowSnapshot flow').edges,
      e'.source = e.source ∧ e'.target = e.target := by
  intro e he
  obtain ⟨k, v, hv, rfl⟩ := mem_readIndexed.mp he
  obtain ⟨k', hv'⟩ := List.mem_iff_getElem?.mp (hedges.subset (List.mem_of_getElem? hv))
  exact ⟨.ofValue k' v, mem_readIndexed.mpr ⟨k', v, hv', rfl⟩, rfl, rfl⟩

theorem AddsEdges.extends (h : AddsEdges flow flow') : (flowSnapshot flow).Extends (flowSnapshot flow') where
  nodes := congrArg (readIndexed RawNode.ofValue) h.nodes
  found id := by
    rw [flowSnapshot, flowSnapshot, Snapshot.node?_ofValues, Snapshot.node?_ofValues, h.nodes]
  fed id field := by
    rw [isConnected_iff, isConnected_iff]
    rintro ⟨e, he, hfed⟩
    exact ⟨e, h.edges.subset he, hfed⟩
  named := by
    intro id hid
    obtain ⟨e, he, hend⟩ := List.mem_flatMap.mp hid
    obtain ⟨e', he', hsource, htarget⟩ := exists_kept_edge h.edges e he
    rw [← hsource, ← htarget] at hend
    exact List.mem_flatMap.mpr ⟨e', he', hend⟩
  links a b := by
    rintro ⟨e, he, hsource, htarget⟩
    obtain ⟨e', he', hsource', htarget'⟩ := exists_kept_edge h.edges e he
    exact ⟨e', he', hsource'.trans hsource, htarget'.trans htarget⟩

theorem getElem?_edgeBlocks {k : Nat} {e : Value} (h : (flowEdges flow)[k]? = some e) :
    (edgeBlocks r flow)[k]? = some (edgeIssues r (flowSnapshot flow) (.ofValue k e)) := by
  have hread : (flowSnapshot flow).edges[k]? = some (RawEdge.ofValue k e) := by
    show (readIndexed RawEdge.ofValue (flowEdges flow))[k]? = _
    rw [readIndexed, List.getElem?_mapIdx, h, Option.map_some]
  rw [edgeBlocks, List.getElem?_map, hread, Option.map_some]

/-- What further edges leave of the issues of a run over the whole flow. -/
structure EdgesAdded (r : Registry) (flow flow' : Value) (report report' : Report) : Prop where
  nodes : Adds [.requiredInputEmpty] (report'.among nodeCodes) (report.among nodeCodes)
  isolated : (report'.only .isolatedNode).Sublist (report.only .isolatedNode)
  blocks : report.among edgeCodes = (edgeBlocks r flow).flatten
  blocks' : report'.among edgeCodes = (edgeBlocks r flow').flatten
  /-- The places of the edges that were there, in order, and at each of them the issues of the edge. -/
  kept : ∃ place : ℕ ↪o ℕ, ∀ k e, (flowEdges flow)[k]? = some e →
    (flowEdges flow')[place k]? = some e ∧ ∃ block block', (edgeBlocks r flow)[k]? = some block ∧
      (edgeBlocks r flow')[place k]? = some block' ∧ List.Forall₂ (Issue.Moved k (place k)) block block'
  circle : (∃ i ∈ report, i.code = .circularDependency) → ∃ i ∈ report', i.code = .circularDependency

theorem AddsEdges.edgesAdded (h : AddsEdges flow flow') (hmode : o.mode = .flow) :
    EdgesAdded r flow flow' ((flowSnapshot flow).issues r o) ((flowSnapshot flow').issues r o) where
  nodes := by
    rw [Snapshot.among_nodeCodes, Snapshot.among_nodeCodes, h.extends.nodes]
    exact nodesIssues_extends h.extends [] _
  isolated := by
    rw [Snapshot.only_isolatedNode hmode, Snapshot.only_isolatedNode hmode]
    exact isolationIssues_extends h.extends
  blocks := by rw [Snapshot.among_edgeCodes hmode, List.flatMap_def, edgeBlocks]
  blocks' := by rw [Snapshot.among_edgeCodes hmode, List.flatMap_def, edgeBlocks]
  kept := by
    obtain ⟨place, hplace⟩ := List.sublist_iff_exists_orderEmbedding_getElem?_eq.mp h.edges
    refine ⟨place, fun k e he => ?_⟩
    have he' : (flowEdges flow')[place k]? = some e := (hplace k).symm.trans he
    exact ⟨he', _, _, getElem?_edgeBlocks he, getElem?_edgeBlocks he',
      edgeIssues_moved h.extends.found k (place k) e⟩
  circle := by
    rw [exists_circle_iff, exists_circle_iff]
    rintro ⟨hwhole, hne⟩
    exact ⟨hwhole, cycleIssues_extends h.extends hne⟩

end Flows

/-- **Further edges** end a run where it ended before.  In a run over nodes alone they take issues of empty
required inputs out of the report and change nothing else.  In a run over the whole flow they do that to
the issues of nodes and take out warnings of isolation, the edges that were there keep their issues but
for the place in the text, and if a circle was reported then one still is. -/
theorem lint_addsEdges (r : Registry) (o : Options) (flow flow' : Value) (h : AddsEdges flow flow') :
    (∀ e, lint r o flow' = .error e ↔ lint r o flow = .error e) ∧
      ∀ report report', lint r o flow = .ok report → lint r o flow' = .ok report' →
        (o.mode = .node → report'.Sublist report ∧ Adds [.requiredInputEmpty] report' report) ∧
          (o.mode = .flow → EdgesAdded r flow flow' report report') := by
  have herror : (flowSnapshot flow').error? r o = (flowSnapshot flow).error? r o := h.extends.error?_eq
  rw [lint_eq_snapshot h.lists, lint_eq_snapshot h.lists']
  refine ⟨fun e => ?fails, fun report report' hreport hreport' => ?ends⟩
  case fails => rw [Snapshot.lint_eq_error_iff, Snapshot.lint_eq_error_iff, herror]
  case ends =>
    obtain ⟨-, rfl⟩ := Snapshot.lint_eq_ok_iff.mp hreport
    obtain ⟨-, rfl⟩ := Snapshot.lint_eq_ok_iff.mp hreport'
    refine ⟨fun hmode => ?node, fun hmode => h.edgesAdded hmode⟩
    case node =>
      have hwhole : o.checksWholeFlow = false := by
        rw [Options.checksWholeFlow, hmode]
        rfl
      have hadds : Adds [.requiredInputEmpty] ((flowSnapshot flow').issues r o)
          ((flowSnapshot flow).issues r o) := by
        simp only [Snapshot.issues, hwhole, Bool.false_eq_true, if_false, List.append_nil, h.extends.nodes]
        exact nodesIssues_extends h.extends [] _
      exact ⟨hadds.sublist, hadds⟩

/-- An edge from the model to itself, without handles. -/
def loopEdge : Value :=
  .record [("source", .str "model"), ("target", .str "model")]

/-- A listener and a model, with some edges. -/
def promptFlow (edges : List Value) : Value :=
  .record
    [("nodes", .arr
      [.record
        [("id", .str "listener"), ("type", .str "x_listener_node"),
          ("position", .record [("x", .int 0), ("y", .int 0)]),
          ("inputs", .arr [.record [("id", .str "accounts"), ("value", .arr [.str "a"])]])],
        modelNode]),
      ("edges", .arr edges)]

/-- An edge in front of the other one feeds the prompt and connects the listener. -/
theorem promptFlow_addsEdges :
    AddsEdges (promptFlow [loopEdge]) (promptFlow [wiredEdge "prompt-handle", loopEdge]) where
  lists := ⟨rfl, rfl, rfl⟩
  lists' := ⟨rfl, rfl, rfl⟩
  nodes := rfl
  edges := by
    show [loopEdge].Sublist [wiredEdge "prompt-handle", loopEdge]
    exact List.sublist_cons_self _ _

/-- The edge of the model to itself closes a circle before and after. -/
theorem promptFlow_circle :
    ∃ i ∈ (flowSnapshot (promptFlow [loopEdge])).issues .builtin {}, i.code = .circularDependency := by
  rw [exists_circle_iff, Snapshot.cycleIssues_ne_nil_iff]
  refine ⟨rfl, .ofValue 1 modelNode, List.mem_cons_of_mem _ List.mem_cons_self, "model", by decide, ?_⟩
  exact ⟨"model", .refl, .single ⟨.ofValue 0 loopEdge, List.mem_cons_self, by decide, by decide⟩⟩

theorem promptFlow_fed :
    ∃ report report', lint .builtin {} (promptFlow [loopEdge]) = .ok report ∧
      lint .builtin {} (promptFlow [wiredEdge "prompt-handle", loopEdge]) = .ok report' ∧
      EdgesAdded .builtin (promptFlow [loopEdge]) (promptFlow [wiredEdge "prompt-handle", loopEdge])
        report report' ∧
      (report.among nodeCodes).map (·.code) = [.requiredInputEmpty] ∧ report'.among nodeCodes = [] ∧
      (report.only .isolatedNode).map (·.elementId) = [some "listener"] ∧
      report'.only .isolatedNode = [] ∧ ∃ i ∈ report', i.code = .circularDependency := by
  have hreport : ∀ edges, (flowSnapshot (promptFlow edges)).error? .builtin {} = none →
      lint .builtin {} (promptFlow edges) = .ok ((flowSnapshot (promptFlow edges)).issues .builtin {}) := by
    intro edges herror
    rw [lint_eq_snapshot ⟨rfl, rfl, rfl⟩]
    exact Snapshot.lint_eq_ok_iff.mpr ⟨herror, rfl⟩
  have hbefore := hreport [loopEdge] (by decide +kernel)
  have hafter := hreport [wiredEdge "prompt-handle", loopEdge] (by decide +kernel)
  have hadded := ((lint_addsEdges .builtin {} _ _ promptFlow_addsEdges).2 _ _ hbefore hafter).2 rfl
  refine ⟨_, _, hbefore, hafter, hadded, ?_, ?_, ?_, ?_, hadded.circle promptFlow_circle⟩
  · rw [Snapshot.among_nodeCodes]
    decide +kernel
  · rw [Snapshot.among_nodeCodes]
    decide +kernel
  · rw [Snapshot.only_isolatedNode rfl]
    decide +kernel
  · rw [Snapshot.only_isolatedNode rfl]
    decide +kernel

end WorkflowCheck
