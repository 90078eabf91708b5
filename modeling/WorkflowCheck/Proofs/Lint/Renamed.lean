import Mathlib.Data.List.Forall2
import WorkflowCheck.Proofs.Lint.NewIds
import WorkflowCheck.Proofs.Lint.Order

/-!
# Reports under new ids

The ids of nodes are names and nothing more.  Of two snapshots that differ in the ids alone
(`Snapshot.RenamedBy`) each rule reports the same issues in the same order, those about nodes under the new
ids (`Report.RenamedBy`), and so do runs over a flow and over the flow under new ids (`lint_renamed`).
-/

namespace WorkflowCheck

open Function (Injective)

/-! ### What each rule reports -/

/-- The second issue is the first one with a new id, if it is about a node, and is else the same apart from
its message.  The message of a circle names the circle, under new ids. -/
structure Issue.RenamedBy (f : String → String) (i j : Issue) : Prop where
  severity : j.severity = i.severity
  code : j.code = i.code
  element : j.element = i.element
  elementId : j.elementId = if i.element = some .node then i.elementId.map f else i.elementId
  side : j.side = i.side
  fieldId : j.fieldId = i.fieldId
  circle : i.code = .circularDependency → ∃ path, i = cycleIssue path ∧ j = cycleIssue (path.map f)

/-- The issues of the second report are those of the first one in order, under new ids. -/
abbrev Report.RenamedBy (f : String → String) : Report → Report → Prop :=
  List.Forall₂ (Issue.RenamedBy f)

section Issues

variable {f : String → String} {severity : Severity} {code : IssueCode} {id : Option String}
  {message message' : String}

theorem Issue.renamedBy_ofFlow (hcode : code ≠ .circularDependency) :
    (Issue.ofFlow severity code message).RenamedBy f (.ofFlow severity code message) :=
  ⟨rfl, rfl, rfl, rfl, rfl, rfl, fun h => absurd h hcode⟩

theorem Issue.renamedBy_node (hcode : code ≠ .circularDependency) :
    (Issue.ofElement severity code .node id message).RenamedBy f
      (.ofElement severity code .node (id.map f) message') :=
  ⟨rfl, rfl, rfl, rfl, rfl, rfl, fun h => absurd h hcode⟩

theorem Issue.renamedBy_field {node : String} {side : FieldSide} {field : Option String}
    (hcode : code ≠ .circularDependency) :
    (Issue.ofField severity code node side field message).RenamedBy f
      (.ofField severity code (f node) side field message') :=
  ⟨rfl, rfl, rfl, rfl, rfl, rfl, fun h => absurd h hcode⟩

theorem Issue.renamedBy_edge (hcode : code ≠ .circularDependency) :
    (Issue.ofElement severity code .edge id message).RenamedBy f
      (.ofElement severity code .edge id message') :=
  ⟨rfl, rfl, rfl, rfl, rfl, rfl, fun h => absurd h hcode⟩

theorem Issue.renamedBy_cycleIssue (path : List String) :
    (cycleIssue path).RenamedBy f (cycleIssue (path.map f)) := by
  refine ⟨rfl, rfl, rfl, ?_, rfl, rfl, fun _ => ⟨path, rfl, rfl⟩⟩
  exact List.head?_map

namespace Report.RenamedBy

variable {α : Type} {i j : Issue} {xs ys : Report}

theorem single (h : i.RenamedBy f j) : Report.RenamedBy f [i] [j] :=
  .cons h .nil

theorem ite_nil {c : Prop} [Decidable c] (h : Report.RenamedBy f xs ys) :
    Report.RenamedBy f (if c then xs else []) (if c then ys else []) := by
  split_ifs
  · exact h
  · exact .nil

theorem append {xs' ys' : Report} (h : Report.RenamedBy f xs ys) (h' : Report.RenamedBy f xs' ys') :
    Report.RenamedBy f (xs ++ xs') (ys ++ ys') :=
  List.rel_append h h'

theorem flatMap {g g' : α → Report} (as : List α) (h : ∀ a, Report.RenamedBy f (g a) (g' a)) :
    Report.RenamedBy f (as.flatMap g) (as.flatMap g') :=
  List.rel_flatMap (R := Eq) (List.forall₂_same.mpr fun _ _ => rfl) fun a _ hab => hab ▸ h a

theorem map {g g' : α → Issue} (as : List α) (h : ∀ a, (g a).RenamedBy f (g' a)) :
    Report.RenamedBy f (as.map g) (as.map g') :=
  List.rel_map (R := Eq) (fun a _ hab => hab ▸ h a) (List.forall₂_same.mpr fun _ _ => rfl)

theorem filterMap {g g' : α → Option Issue} (as : List α)
    (h : ∀ a, Option.Rel (Issue.RenamedBy f) (g a) (g' a)) :
    Report.RenamedBy f (as.filterMap g) (as.filterMap g') :=
  List.rel_filterMap (R := Eq) (fun a _ hab => hab ▸ h a) (List.forall₂_same.mpr fun _ _ => rfl)

end Report.RenamedBy

end Issues

section Nodes

variable {f : String → String} {r : Registry} {o : Options} {s s' : Snapshot} {n : RawNode} {id : String}
  {c : Contract}

open Report.RenamedBy (single append flatMap)

theorem typeIssues_renamedBy :
    Report.RenamedBy f (typeIssues r n id) (typeIssues r (n.rename f) (f id)) := by
  show Report.RenamedBy f (typeIssues r n id) (typeIssues r n (f id))
  rw [typeIssues, typeIssues]
  split_ifs
  · exact single (Issue.renamedBy_node (by decide))
  · exact single (Issue.renamedBy_node (by decide))
  · exact .nil

theorem positionIssues_renamedBy :
    Report.RenamedBy f (positionIssues n id) (positionIssues (n.rename f) (f id)) := by
  show Report.RenamedBy f (positionIssues n id) (positionIssues n (f id))
  rw [positionIssues, positionIssues]
  split_ifs
  · exact single (Issue.renamedBy_node (by decide))
  · exact single (Issue.renamedBy_node (by decide))
  · exact .nil

theorem requiredIssues_renamedBy (h : s.RenamedBy f s') (required : String) :
    Report.RenamedBy f (requiredIssues o s n id required)
      (requiredIssues o s' (n.rename f) (f id) required) := by
  have hfed : isConnected s' (f id) required = isConnected s id required := by
    rw [isConnected, isConnected, h.fed]
  have hinput : (n.rename f).findInput? required = n.findInput? required := rfl
  rw [requiredIssues, requiredIssues, hfed, hinput]
  cases n.findInput? required with
  | none => exact single (Issue.renamedBy_field (by decide))
  | some i => exact .ite_nil (single (Issue.renamedBy_field (by decide)))

theorem inputIssues_renamedBy {allowed : List String} (i : RawInput) :
    Report.RenamedBy f (inputIssues allowed id i) (inputIssues allowed (f id) i) := by
  rw [inputIssues, inputIssues]
  cases i.id with
  | none => exact single (Issue.renamedBy_node (by decide))
  | some field =>
    dsimp only
    split_ifs
    · exact .nil
    · exact single (Issue.renamedBy_field (by decide))

theorem outputIssues_renamedBy (out : RawOutput) :
    Report.RenamedBy f (outputIssues o id c out) (outputIssues o (f id) c out) := by
  rw [outputIssues, outputIssues]
  refine append (append ?missing ?deleted) ?unknown
  case missing => exact .ite_nil (single (Issue.renamedBy_node (by decide)))
  case deleted => exact .ite_nil (single (Issue.renamedBy_field (by decide)))
  case unknown =>
    cases out.id with
    | none => exact .nil
    | some field =>
      dsimp only
      split_ifs
      · exact .nil
      · exact single (Issue.renamedBy_field (by decide))

theorem formIssues_renamedBy (h : s.RenamedBy f s') (repeated : Bool) :
    Report.RenamedBy f (formIssues r o s repeated n id)
      (formIssues r o s' repeated (n.rename f) (f id)) := by
  have hcontract : r.checkedContract? (n.rename f) = r.checkedContract? n := rfl
  rw [formIssues, formIssues, hcontract]
  refine append (append (append ?repeats typeIssues_renamedBy) positionIssues_renamedBy) ?fields
  case repeats => exact .ite_nil (single (Issue.renamedBy_node (by decide)))
  case fields =>
    cases r.checkedContract? n with
    | none => exact .nil
    | some c =>
      refine append (append ?_ ?_) (flatMap n.outputs outputIssues_renamedBy)
      · exact flatMap c.requiredInputs (requiredIssues_renamedBy h)
      · exact flatMap n.inputs inputIssues_renamedBy

theorem versionIssues_renamedBy :
    Report.RenamedBy f (versionIssues o n id) (versionIssues o (n.rename f) (f id)) := by
  show Report.RenamedBy f (versionIssues o n id) (versionIssues o n (f id))
  rw [versionIssues, versionIssues]
  split
  · exact .ite_nil (single (Issue.renamedBy_node (by decide)))
  · split
    · exact single (Issue.renamedBy_node (by decide))
    · exact .ite_nil (single (Issue.renamedBy_node (by decide)))

theorem reportsPair_rename (n other : RawNode) :
    reportsPair (n.rename f) (other.rename f) = reportsPair n other := by
  have hid : (other.rename f).id.isSome = other.id.isSome := Option.isSome_map
  rw [reportsPair, hid, reportsPair]
  rfl

theorem overlapIssues_renamedBy (hf : Injective f) (h : s.RenamedBy f s') :
    Report.RenamedBy f (overlapIssues s n id) (overlapIssues s' (n.rename f) (f id)) := by
  have hhere : (n.rename f).coordinates? = n.coordinates? := rfl
  rw [overlapIssues, overlapIssues, hhere]
  cases n.coordinates? with
  | none => exact .nil
  | some here =>
    dsimp only
    rw [h.nodes, List.filterMap_map]
    refine .filterMap s.nodes fun other => ?_
    have hthere : (other.rename f).coordinates? = other.coordinates? := rfl
    have hother : ((other.rename f).id == some (f id)) = (other.id == some id) :=
      Bool.eq_iff_iff.mpr (beq_iff_eq.trans ((option_map_eq_some_iff hf).trans beq_iff_eq.symm))
    dsimp only [Function.comp_apply]
    rw [hthere, reportsPair_rename, hother]
    cases other.coordinates? with
    | none => exact .none
    | some there =>
      dsimp only
      split_ifs
      · exact .some (Issue.renamedBy_node (by decide))
      · exact .none

theorem nodeIssues_renamedBy (hf : Injective f) (h : s.RenamedBy f s') (repeated : Bool) (n : RawNode) :
    Report.RenamedBy f (nodeIssues r o s repeated n) (nodeIssues r o s' repeated (n.rename f)) := by
  cases hid : n.id with
  | none =>
    have hid' : (n.rename f).id = none := congrArg (Option.map f) hid
    rw [nodeIssues_of_no_id hid, nodeIssues_of_no_id hid']
    exact single (Issue.renamedBy_node (by decide))
  | some id =>
    have hid' : (n.rename f).id = some (f id) := congrArg (Option.map f) hid
    rw [nodeIssues_of_id hid, nodeIssues_of_id hid']
    refine append (append (formIssues_renamedBy h repeated) versionIssues_renamedBy) ?_
    exact .ite_nil (overlapIssues_renamedBy hf h)

/-- Ids come again under new ids where they did under the old ones. -/
theorem nodesIssues_renamedBy (hf : Injective f) (h : s.RenamedBy f s') :
    ∀ (seen : List String) (ns : List RawNode),
      Report.RenamedBy f (nodesIssues r o s seen ns)
        (nodesIssues r o s' (seen.map f) (ns.map (RawNode.rename f)))
  | _, [] => .nil
  | seen, n :: ns => by
    have hrepeated : (n.rename f).id.any (· ∈ seen.map f) = n.id.any (· ∈ seen) := by
      show (n.id.map f).any _ = _
      rw [Option.any_map]
      exact congrArg (n.id.any ·) (funext fun id => decide_eq_decide.mpr (List.mem_map_of_injective hf))
    have hseen : (n.rename f).id.toList ++ seen.map f = (n.id.toList ++ seen).map f := by
      rw [List.map_append, ← Option.toList_map]
      rfl
    rw [List.map_cons, nodesIssues, nodesIssues, hrepeated, hseen]
    exact append (nodeIssues_renamedBy hf h _ n) (nodesIssues_renamedBy hf h _ ns)

end Nodes

section Edges

variable {f : String → String} {r : Registry} {s s' : Snapshot} {e : RawEdge} {name : String}
  {code : IssueCode}

open Report.RenamedBy (single append)

theorem edgeIssue_renamedBy {message message' : String} (hcode : code ≠ .circularDependency) :
    (edgeIssue e code message).RenamedBy f (edgeIssue (e.rename f) code message') :=
  Issue.renamedBy_edge hcode

theorem absentIssues_renamedBy {part part' : Option String} (hcode : code ≠ .circularDependency)
    (hpart : part'.isNone = part.isNone) :
    Report.RenamedBy f (absentIssues e part name code) (absentIssues (e.rename f) part' name code) := by
  rw [absentIssues, absentIssues, hpart]
  exact .ite_nil (single (edgeIssue_renamedBy hcode))

theorem danglingIssues_renamedBy (h : s.RenamedBy f s') (hcode : code ≠ .circularDependency)
    (ending : Option String) :
    Report.RenamedBy f (danglingIssues s e ending name code)
      (danglingIssues s' (e.rename f) (ending.map f) name code) := by
  cases ending with
  | none => exact .nil
  | some id =>
    have hsome : (s'.node? (f id)).isSome = (s.node? id).isSome := by rw [h.found, Option.isSome_map]
    rw [Option.map_some, danglingIssues, danglingIssues, hsome]
    split_ifs
    · exact .nil
    · exact single (edgeIssue_renamedBy hcode)

theorem handleIssues_renamedBy (h : s.RenamedBy f s') (hcode : code ≠ .circularDependency)
    {handles : RawNode → List String} (hhandles : ∀ n, handles (n.rename f) = handles n)
    (ending handle : Option String) :
    Report.RenamedBy f (handleIssues s e ending handle handles name code)
      (handleIssues s' (e.rename f) (ending.map f) handle handles name code) := by
  cases ending with
  | none => exact .nil
  | some id =>
    cases handle with
    | none => exact .nil
    | some field =>
      rw [Option.map_some, handleIssues, handleIssues, h.found]
      cases s.node? id with
      | none => exact .nil
      | some n =>
        dsimp only [Option.map_some]
        rw [hhandles]
        split_ifs
        · exact .nil
        · exact single (edgeIssue_renamedBy hcode)

theorem edgeIssues_renamedBy (h : s.RenamedBy f s') (e : RawEdge) :
    Report.RenamedBy f (edgeIssues r s e) (edgeIssues r s' (e.rename f)) := by
  rw [edgeIssues, edgeIssues]
  refine append (append (append (append (append (append (append ?_ ?_) ?_) ?_) ?_) ?_) ?_) ?_
  · exact absentIssues_renamedBy (by decide) Option.isNone_map
  · exact absentIssues_renamedBy (by decide) rfl
  · exact absentIssues_renamedBy (by decide) Option.isNone_map
  · exact absentIssues_renamedBy (by decide) rfl
  · exact danglingIssues_renamedBy h (by decide) e.source
  · exact danglingIssues_renamedBy h (by decide) e.target
  · exact handleIssues_renamedBy h (by decide) (fun _ => rfl) e.source e.sourceHandle
  · exact handleIssues_renamedBy h (by decide) (fun _ => rfl) e.target e.targetHandle

end Edges

section Graph

variable {f : String → String} {r : Registry} {o : Options} {s s' : Snapshot}

theorem isolationIssues_renamedBy (hf : Injective f) (h : s.RenamedBy f s') :
    Report.RenamedBy f (isolationIssues s) (isolationIssues s') := by
  have hlength : s'.nodes.length = s.nodes.length := by rw [h.nodes, List.length_map]
  have hfree : (fun id => decide (id ∉ s.connectedIds.map f)) ∘ f = fun id => decide (id ∉ s.connectedIds) :=
    funext fun id => decide_eq_decide.mpr (not_congr (List.mem_map_of_injective hf))
  rw [isolationIssues, isolationIssues, hlength, h.nodeIds, h.connectedIds, List.filter_map, hfree,
    List.map_map]
  split_ifs
  · exact .nil
  · exact .map _ fun id => Issue.renamedBy_node (by decide)

theorem cycleIssues_renamedBy (hf : Injective f) (h : s.RenamedBy f s') :
    Report.RenamedBy f (cycleIssues s) (cycleIssues s') := by
  have hcycles := cyclesFrom_map hf (h.adjacency hf) [] (s.nodes.filterMap (·.id))
  rw [List.map_nil, ← h.nodeIds] at hcycles
  rw [cycleIssues, cycleIssues, hcycles, List.map_map]
  exact .map _ Issue.renamedBy_cycleIssue

theorem Snapshot.issues_renamedBy (hf : Injective f) (h : s.RenamedBy f s') :
    Report.RenamedBy f (s.issues r o) (s'.issues r o) := by
  rw [issues, issues, h.nodes, h.edges, List.flatMap_map]
  refine .append (nodesIssues_renamedBy hf h [] s.nodes) (.ite_nil ?_)
  refine .append (.flatMap s.edges (edgeIssues_renamedBy h)) ?_
  exact .append (isolationIssues_renamedBy hf h) (cycleIssues_renamedBy hf h)

end Graph

/-! ### Whole runs -/

section Runs

variable {f : String → String} {r : Registry} {o : Options} {s s' : Snapshot}

theorem Snapshot.nodeError?_rename (h : s.RenamedBy f s') (n : RawNode) :
    s'.nodeError? r o (n.rename f) = s.nodeError? r o n := by
  have hid : (n.rename f).id.isNone = n.id.isNone := Option.isNone_map
  have hmeets : s'.meetsOversized (n.rename f) = s.meetsOversized n := by
    rw [meetsOversized, meetsOversized, h.nodes, List.any_map]
    refine congrArg (n.coordinates?.isSome && s.nodes.any ·) (funext fun other => ?_)
    exact congrArg (· && other.place == .oversized) (reportsPair_rename n other)
  rw [nodeError?, hid, hmeets]
  rfl

theorem Snapshot.error?_rename (h : s.RenamedBy f s') : s'.error? r o = s.error? r o := by
  rw [error?, error?, h.nodes, List.findSome?_map]
  exact congrArg (List.findSome? · s.nodes) (funext fun n => nodeError?_rename h n)

theorem RawFlow.renamedBy_of_malformed {flow : Value} {issue : Issue} (h : ofValue flow = .malformed issue) :
    issue.RenamedBy f issue := by
  unfold ofValue at h
  split_ifs at h
  all_goals
    cases h
    exact Issue.renamedBy_ofFlow (by decide)

/-- **Ids are names.**  With other ids for its nodes, different ones for different ones, a flow has the same
report in the same order: what is about a node is about the node of the new id, a circle goes through the new
ids, and all else is as it was.  A run that ends without a report ends so with the same error. -/
theorem lint_renamed (ρ : FilledText ↪ FilledText) (r : Registry) (o : Options) (flow : Value) :
    (∀ e, lint r o (renameFlow ρ flow) = .error e ↔ lint r o flow = .error e) ∧
      ∀ report, lint r o flow = .ok report →
        ∃ report', lint r o (renameFlow ρ flow) = .ok report' ∧
          List.Forall₂ (Issue.RenamedBy (renamed ρ)) report report' := by
  have hsnapshot : (flowSnapshot flow).RenamedBy (renamed ρ) (flowSnapshot (renameFlow ρ flow)) :=
    renamedBy_flowSnapshot
  rcases ofValue_cases flow with ⟨hlists, -⟩ | ⟨hlists, issue, hflow, -⟩
  · rw [lint_eq_snapshot hlists, lint_eq_snapshot (hasLists_renameFlow.mpr hlists)]
    refine ⟨fun e => ?fails, fun report hreport => ?reports⟩
    case fails =>
      rw [Snapshot.lint_eq_error_iff, Snapshot.lint_eq_error_iff, Snapshot.error?_rename hsnapshot]
    case reports =>
      obtain ⟨hnone, rfl⟩ := Snapshot.lint_eq_ok_iff.mp hreport
      refine ⟨_, Snapshot.lint_eq_ok_iff.mpr ⟨(Snapshot.error?_rename hsnapshot).trans hnone, rfl⟩, ?_⟩
      exact Snapshot.issues_renamedBy renamed_injective hsnapshot
  · rw [lint, lint, ofValue_renameFlow hlists, hflow]
    refine ⟨fun e => Iff.rfl, fun report hreport => ⟨report, hreport, ?_⟩⟩
    cases hreport
    exact .cons (RawFlow.renamedBy_of_malformed hflow) .nil

/-- The text with a mark in front of it. -/
def marked : FilledText ↪ FilledText where
  toFun s := ⟨"@" ++ s.val, by simp⟩
  inj' s t h := Subtype.ext (String.append_right_inj "@" |>.mp (congrArg Subtype.val h))

/-- Walks over two ids with an edge each way meet one circle. -/
theorem cyclesFrom_pair {a b : String} (h : a ≠ b) :
    cyclesFrom [(a, [b]), (b, [a])] [] [a, b] = [[a, b, a]] := by
  simp [cyclesFrom, Walk.fromRoot, Walk.start, Walk.run, Walk.enter, Walk.circle, Adjacency.successors,
    Table.get?, h, h.symm]

theorem cycleIssue_mem_issues_pair {a b : String} (h : a ≠ b) (hids : s.nodes.filterMap (·.id) = [a, b])
    (hedges : s.adjacency = [(a, [b]), (b, [a])]) : cycleIssue [a, b, a] ∈ s.issues r {} := by
  have hcircle : cycleIssue [a, b, a] ∈ cycleIssues s := by
    rw [cycleIssues, hids, hedges, cyclesFrom_pair h]
    exact List.mem_singleton_self _
  exact List.mem_append_right _ (List.mem_append_right _ (List.mem_append_right _ hcircle))

theorem ringFlow_renamed :
    ∃ report report', lint .builtin {} (ringFlow ["a", "b"] [("a", "b"), ("b", "a")]) = .ok report ∧
      lint .builtin {} (renameFlow marked (ringFlow ["a", "b"] [("a", "b"), ("b", "a")])) = .ok report' ∧
      List.Forall₂ (Issue.RenamedBy (renamed marked)) report report' ∧
      cycleIssue ["a", "b", "a"] ∈ report ∧ cycleIssue ["@a", "@b", "@a"] ∈ report' := by
  have hreport : lint .builtin {} (ringFlow ["a", "b"] [("a", "b"), ("b", "a")]) =
      .ok ((flowSnapshot (ringFlow ["a", "b"] [("a", "b"), ("b", "a")])).issues .builtin {}) := by
    rw [lint_eq_snapshot ⟨rfl, rfl, rfl⟩]
    exact Snapshot.lint_eq_ok_iff.mpr ⟨by decide +kernel, rfl⟩
  obtain ⟨report', hreport', hrenamed⟩ := (lint_renamed marked .builtin {} _).2 _ hreport
  refine ⟨_, report', hreport, hreport', hrenamed, ?_, ?_⟩
  · exact cycleIssue_mem_issues_pair (by decide) rfl rfl
  · rw [lint_eq_snapshot (hasLists_renameFlow.mpr ⟨rfl, rfl, rfl⟩)] at hreport'
    obtain ⟨-, rfl⟩ := Snapshot.lint_eq_ok_iff.mp hreport'
    exact cycleIssue_mem_issues_pair (by decide) (by decide +kernel) (by decide +kernel)

end Runs

end WorkflowCheck
