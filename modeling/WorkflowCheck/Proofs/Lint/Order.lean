import Mathlib.Data.List.Find
import WorkflowCheck.Proofs.Lint.Reordered

/-!
# The order of nodes and edges

Two raw flows with the same nodes, of which no two share an id, and the same edges have snapshots that are
reordered (`reordered_flowSnapshot`), so `lint_perm` follows from what the rules report of those.
-/

namespace WorkflowCheck

open scoped List

/-! ### Raw flows in two orders -/

section Raw

variable {r : Registry} {o : Options} {flow flow' : Value}

theorem unnumbered_nodes :
    (flowSnapshot flow).nodes.map RawNode.unnumbered = (flowNodes flow).map (RawNode.ofValue 0) :=
  have h : ∀ i v, (RawNode.ofValue i v).unnumbered = RawNode.ofValue 0 v := fun _ _ => rfl
  map_readIndexed h (flowNodes flow)

theorem unnumbered_edges :
    (flowSnapshot flow).edges.map RawEdge.unnumbered = (flowEdges flow).map (RawEdge.ofValue 0) :=
  have h : ∀ i v, (RawEdge.ofValue i v).unnumbered = RawEdge.ofValue 0 v := fun _ _ => rfl
  map_readIndexed h (flowEdges flow)

/-- No two nodes share an id. -/
def DistinctIds (flow : Value) : Prop :=
  (flowNodes flow).Pairwise fun m n => ∀ id, m.Names "id" id → ¬ n.Names "id" id

/-- Each node has a place behind those before it. -/
theorem places_flowSnapshot : (flowSnapshot flow).nodes.Pairwise fun m n => m.index < n.index :=
  Snapshot.places_ofValues _ _

theorem numbered_flowSnapshot (h : DistinctIds flow) : (flowSnapshot flow).Numbered := by
  refine ⟨places_flowSnapshot, ?_⟩
  refine (pairwise_readIndexed (flowNodes flow) fun i j v w => forall_congr' fun id => ?_).mpr h
  exact imp_congr Value.filledText?_field_iff (not_congr Value.filledText?_field_iff)

theorem DistinctIds.of_perm (h : DistinctIds flow) (hnodes : flowNodes flow ~ flowNodes flow') :
    DistinctIds flow' :=
  hnodes.pairwise h fun hmn id hn hm => hmn id hm hn

/-- The node of an id, but for its place, is found among the nodes without places. -/
theorem node?_unnumbered (id : String) :
    ((flowSnapshot flow).node? id).map RawNode.unnumbered =
      ((flowNodes flow).map (RawNode.ofValue 0)).find? fun n => n.id = some id := by
  rw [← unnumbered_nodes, List.find?_map, flowSnapshot, Snapshot.node?_ofValues]
  rfl

theorem reordered_flowSnapshot (h : DistinctIds flow) (hnodes : flowNodes flow ~ flowNodes flow')
    (hedges : flowEdges flow ~ flowEdges flow') :
    (flowSnapshot flow).Reordered (flowSnapshot flow') := by
  refine ⟨?_, ?_, fun id => ?_, fun id field => ?_⟩
  · rw [unnumbered_nodes, unnumbered_nodes]
    exact hnodes.map _
  · rw [unnumbered_edges, unnumbered_edges]
    exact hedges.map _
  · rw [node?_unnumbered, node?_unnumbered]
    -- the first node with an id is the only one, whatever the order
    refine List.find?_eq_find?_of_perm (hnodes.map _) ?_
    rintro n ⟨hn, hnid⟩ m ⟨hm, hmid⟩
    obtain ⟨v, hv, rfl⟩ := List.mem_map.mp hn
    obtain ⟨w, hw, rfl⟩ := List.mem_map.mp hm
    by_contra hne
    have hvw : v ≠ w := fun heq => hne (congrArg (RawNode.ofValue 0) heq)
    have : Std.Symm fun m n : Value => ∀ id, m.Names "id" id → ¬ n.Names "id" id :=
      ⟨fun _ _ hmn id hn hm => hmn id hm hn⟩
    exact h.forall hv hw hvw id (Value.filledText?_field_iff.mp (of_decide_eq_true hnid))
      (Value.filledText?_field_iff.mp (of_decide_eq_true hmid))
  · rw [Bool.eq_iff_iff, isConnected_iff, isConnected_iff]
    exact exists_congr fun e => and_congr_left' hedges.mem_iff

/-- Whether some node ends the run does not depend on the order. -/
theorem exists_fails_perm (hnodes : flowNodes flow ~ flowNodes flow') :
    (∃ n ∈ flowNodes flow, Fails o flow n) ↔ ∃ n ∈ flowNodes flow', Fails o flow' n := by
  have hfails : ∀ n, Fails o flow n ↔ Fails o flow' n := by
    intro n
    simp only [Fails, hnodes.mem_iff]
  exact exists_congr fun n => and_congr hnodes.mem_iff (hfails n)

end Raw

/-- The severities follow from the codes. -/
theorem Report.kinds_perm {dropped : List IssueCode} {xs ys : Report}
    (hxs : ∀ i ∈ xs, i.severity = i.code.severity) (hys : ∀ i ∈ ys, i.severity = i.code.severity)
    (h : (xs.without dropped).map (·.code) ~ (ys.without dropped).map (·.code)) :
    ((xs.without dropped).map fun i => (i.severity, i.code)) ~
      (ys.without dropped).map fun i => (i.severity, i.code) := by
  have hkind : ∀ {zs : Report}, (∀ i ∈ zs, i.severity = i.code.severity) →
      ((zs.without dropped).map fun i => (i.severity, i.code)) =
        ((zs.without dropped).map (·.code)).map fun code => (code.severity, code) := by
    intro zs hzs
    rw [List.map_map]
    refine List.map_congr_left fun i hi => ?_
    rw [hzs i (List.mem_filter.mp hi).1]
    rfl
  rw [hkind hxs, hkind hys]
  exact h.map _

/-- Reports of the same kinds of issues, circles counted once, have errors together. -/
theorem hasErrors_of_kinds {xs ys : Report} (hys : ∀ i ∈ ys, i.severity = i.code.severity)
    (hkinds : ((xs.without [.circularDependency]).map fun i => (i.severity, i.code)) ~
      (ys.without [.circularDependency]).map fun i => (i.severity, i.code))
    (hcircle : (∃ i ∈ xs, i.code = .circularDependency) → ∃ i ∈ ys, i.code = .circularDependency)
    (h : xs.hasErrors = true) : ys.hasErrors = true := by
  rw [Report.hasErrors, List.any_eq_true] at h ⊢
  obtain ⟨i, hi, herror⟩ := h
  -- the error may be a circle, of which the reports can have different numbers
  by_cases hcode : i.code = .circularDependency
  · obtain ⟨j, hj, hjcode⟩ := hcircle ⟨i, hi, hcode⟩
    refine ⟨j, hj, ?_⟩
    rw [Issue.isError, hys j hj, hjcode]
    rfl
  · have hkept : i ∈ xs.without [.circularDependency] :=
      List.mem_filter.mpr ⟨hi, decide_eq_true fun h => hcode (List.mem_singleton.mp h)⟩
    obtain ⟨j, hj, hkind⟩ := List.mem_map.mp (hkinds.mem_iff.mp (List.mem_map_of_mem hkept))
    refine ⟨j, (List.mem_filter.mp hj).1, ?_⟩
    have hsevere : j.severity = i.severity := congrArg Prod.fst hkind
    rwa [Issue.isError, hsevere]

/-- **The order of a flow does not matter.**  Runs over two flows with the same nodes, of which no two
share an id, and the same edges end with a report together.  Apart from circles the reports have the same
kinds of issues, each as often; one has a circle if the other has; and both have errors or neither has. -/
theorem lint_perm (r : Registry) (o : Options) (flow flow' : Value) (hlists : HasLists flow)
    (hlists' : HasLists flow') (hnodes : flowNodes flow ~ flowNodes flow')
    (hedges : flowEdges flow ~ flowEdges flow') (hids : DistinctIds flow) :
    ((∃ report, lint r o flow = .ok report) ↔ ∃ report', lint r o flow' = .ok report') ∧
      ∀ report report', lint r o flow = .ok report → lint r o flow' = .ok report' →
        (((report.without [.circularDependency]).map fun i => (i.severity, i.code)) ~
          (report'.without [.circularDependency]).map fun i => (i.severity, i.code)) ∧
        ((∃ i ∈ report, i.code = .circularDependency) ↔ ∃ i ∈ report', i.code = .circularDependency) ∧
        report.hasErrors = report'.hasErrors := by
  refine ⟨?ends, fun report report' hreport hreport' => ?same⟩
  case ends =>
    rw [exists_lint_eq_ok_iff hlists, exists_lint_eq_ok_iff hlists', exists_fails_perm hnodes]
  case same =>
    have hsevere := severity_of_mem_lint hreport
    have hsevere' := severity_of_mem_lint hreport'
    rw [lint_eq_snapshot hlists] at hreport
    rw [lint_eq_snapshot hlists'] at hreport'
    obtain ⟨-, rfl⟩ := Snapshot.lint_eq_ok_iff.mp hreport
    obtain ⟨-, rfl⟩ := Snapshot.lint_eq_ok_iff.mp hreport'
    have hordered := reordered_flowSnapshot hids hnodes hedges
    have hcircle := exists_circle_reordered (r := r) (o := o) hordered
    have hkinds := Report.kinds_perm hsevere hsevere' (without_circles_perm hordered
      (numbered_flowSnapshot hids) (numbered_flowSnapshot (hids.of_perm hnodes)))
    refine ⟨hkinds, hcircle, Bool.eq_iff_iff.mpr ⟨?_, ?_⟩⟩
    · exact hasErrors_of_kinds hsevere' hkinds hcircle.mp
    · exact hasErrors_of_kinds hsevere hkinds.symm hcircle.mpr

/-- A flow of nodes at the origin, of no known type, and of edges without handles. -/
def ringFlow (ids : List String) (ends : List (String × String)) : Value :=
  .record
    [("nodes", .arr (ids.map fun id =>
      .record
        [("id", .str id), ("type", .str "relay"),
          ("position", .record [("x", .int 0), ("y", .int 0)])])),
      ("edges", .arr (ends.map fun (source, target) =>
        .record [("source", .str source), ("target", .str target)]))]

theorem distinctIds_ringFlow {ids : List String} {ends : List (String × String)} (h : ids.Nodup) :
    DistinctIds (ringFlow ids ends) :=
  List.pairwise_map.mpr (h.imp fun hne _ hm hn =>
    hne ((Value.str.inj hm.1).trans (Value.str.inj hn.1).symm))

theorem ringFlow_perm :
    ∃ report report', lint .builtin {} (ringFlow ["a", "b", ""] [("a", "b"), ("b", "a")]) = .ok report ∧
      lint .builtin {} (ringFlow ["", "b", "a"] [("b", "a"), ("a", "b")]) = .ok report' ∧
      (((report.without [.circularDependency]).map fun i => (i.severity, i.code)) ~
        (report'.without [.circularDependency]).map fun i => (i.severity, i.code)) ∧
      report.hasErrors = report'.hasErrors := by
  have hsame := lint_perm .builtin {} (ringFlow ["a", "b", ""] [("a", "b"), ("b", "a")])
    (ringFlow ["", "b", "a"] [("b", "a"), ("a", "b")]) ⟨rfl, rfl, rfl⟩ ⟨rfl, rfl, rfl⟩
    (List.reverse_perm [_, _, _]).symm (List.Perm.swap _ _ []) (distinctIds_ringFlow (by decide))
  have hends : (lint .builtin {} (ringFlow ["a", "b", ""] [("a", "b"), ("b", "a")])).toOption.isSome =
      true := by decide +kernel
  cases hreport : lint .builtin {} (ringFlow ["a", "b", ""] [("a", "b"), ("b", "a")]) with
  | error e =>
    rw [hreport] at hends
    cases hends
  | ok report =>
    obtain ⟨report', hreport'⟩ := hsame.1.mp ⟨report, hreport⟩
    obtain ⟨hkinds, -, herrors⟩ := hsame.2 report report' hreport hreport'
    exact ⟨report, report', rfl, hreport', hkinds, herrors⟩

end WorkflowCheck
