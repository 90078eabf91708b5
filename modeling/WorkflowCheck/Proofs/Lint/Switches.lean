import WorkflowCheck.Proofs.Lint.Reported
import WorkflowCheck.Registry.Builtin

/-!
# What the switches of a run change

The mode of a run decides whether the checks of the whole flow take part, and each of the other switches
adds issues of its own.  None of them changes another issue or its place: a run over the nodes alone
reports what a run over the whole flow does, less what has a code of `wholeFlowCodes`
(`lintForNode_eq_without`), and the switches for strictness and for versions only add issues, each with
codes of its own (`lint_switches`).
-/

namespace WorkflowCheck

/-! ### What ends a run -/

namespace Snapshot

variable {r : Registry} {o o' : Options} {s : Snapshot} {n : RawNode}

/-- Of the options only the mode bears on what ends a run. -/
theorem error?_congr (h : o.mode = o'.mode) : s.error? r o = s.error? r o' := by
  have hnode : s.nodeError? r o = s.nodeError? r o' := by
    funext n
    rw [nodeError?, nodeError?, Options.checksWholeFlow, Options.checksWholeFlow, h]
  rw [error?, error?, hnode]

/-- A node that does not end a run over the whole flow does not end one over the nodes alone. -/
theorem nodeError?_node (h : s.nodeError? r o n = none) :
    s.nodeError? r { o with mode := .node } n = none := by
  have halone : ({ o with mode := .node } : Options).checksWholeFlow = false := rfl
  rw [nodeError?] at h
  rw [nodeError?, halone, Bool.false_and, if_neg Bool.false_ne_true]
  split_ifs at h ⊢
  · rfl
  · rfl

theorem error?_node (h : s.error? r o = none) : s.error? r { o with mode := .node } = none := by
  rw [error?, List.findSome?_eq_none_iff] at h ⊢
  exact fun n hn => nodeError?_node (h n hn)

end Snapshot

/-! ### The mode -/

/-- The codes of what only a run over the whole flow checks: overlaps, isolation, circles and edges. -/
def wholeFlowCodes : List IssueCode :=
  [.nodePositionOverlap, .isolatedNode, .circularDependency] ++ edgeCodes

section Mode

variable {r : Registry} {o : Options} {s : Snapshot}

open Report (without without_append without_eq_self without_eq_nil)

/-- Over the nodes alone a node has the issues that it has over the whole flow, less its overlaps. -/
theorem nodeIssues_mode (repeated : Bool) (n : RawNode) :
    nodeIssues r { o with mode := .node } s repeated n =
      without wholeFlowCodes (nodeIssues r { o with mode := .flow } s repeated n) := by
  cases hid : n.id with
  | none =>
    rw [nodeIssues_of_no_id hid, nodeIssues_of_no_id hid]
    rfl
  | some id =>
    have hform : without wholeFlowCodes (formIssues r o s repeated n id) =
        formIssues r o s repeated n id := without_eq_self formIssues_bears (by decide)
    have hversion : without wholeFlowCodes (versionIssues o n id) = versionIssues o n id :=
      without_eq_self (fun i hi => (versionIssues_isOn i hi).bears) (by decide)
    have hoverlap : without wholeFlowCodes (overlapIssues s n id) = [] :=
      without_eq_nil (fun i hi => (overlapIssues_isOn i hi).bears) (by decide)
    have hnode : nodeIssues r { o with mode := .node } s repeated n =
        formIssues r o s repeated n id ++ versionIssues o n id ++ [] := nodeIssues_of_id hid
    have hflow : nodeIssues r { o with mode := .flow } s repeated n =
        formIssues r o s repeated n id ++ versionIssues o n id ++ overlapIssues s n id :=
      nodeIssues_of_id hid
    rw [hnode, hflow, without_append, without_append, hform, hversion, hoverlap]

theorem Snapshot.issues_mode :
    s.issues r { o with mode := .node } =
      without wholeFlowCodes (s.issues r { o with mode := .flow }) := by
  have hflow : s.issues r { o with mode := .flow } = nodesIssues r { o with mode := .flow } s [] s.nodes
      ++ (s.edges.flatMap (edgeIssues r s) ++ graphIssues s) := rfl
  rw [hflow, without_append, without_append, without_eq_nil flatMap_edgeIssues_bears (by decide),
    without_eq_nil graphIssues_bears (by decide), ← nodesIssues_without nodeIssues_mode]
  rfl

end Mode

/-- **A run over the nodes alone** does not look at the mode that it is given, and when the run over the
whole flow ends with a report, it ends with the same report without the issues of the whole flow, all else
in place. -/
theorem lintForNode_eq_without (r : Registry) (o : Options) (flow : Value) :
    (∀ mode, lintForNode r { o with mode } flow = lintForNode r o flow) ∧
      ∀ report, lint r { o with mode := .flow } flow = .ok report →
        lintForNode r o flow = .ok (report.without wholeFlowCodes) := by
  refine ⟨fun _ => rfl, fun report hreport => ?_⟩
  rw [lint] at hreport
  rw [lintForNode, lint]
  cases hflow : RawFlow.ofValue flow with
  | malformed issue =>
    rw [hflow] at hreport
    cases hreport
    rw [Report.without_eq_self (RawFlow.bears_of_malformed hflow) (by decide)]
  | snapshot s =>
    rw [hflow] at hreport
    obtain ⟨herror, rfl⟩ := Snapshot.lint_eq_ok_iff.mp hreport
    exact Snapshot.lint_eq_ok_iff.mpr ⟨Snapshot.error?_node (o := { o with mode := .flow }) herror,
      Snapshot.issues_mode⟩

/-- A flow under way: its second node lies over the first one and lacks its inputs, no node has a version,
an output has no mark of deletion, a required input is empty, and the edge has only a source. -/
def draftFlow : Value :=
  .record
    [("nodes", .arr
      [.record
        [("id", .str "news"), ("type", .str "rss_listener_node"),
          ("position", .record [("x", .int 0), ("y", .int 0)]),
          ("inputs", .arr [.record [("id", .str "route"), ("value", .str "")]]),
          ("outputs", .arr [.record [("id", .str "feeds")]])],
        .record
        [("id", .str "sheet"), ("type", .str "dataset_output_node"),
          ("position", .record [("x", .int 10), ("y", .int 10)])]]),
      ("edges", .arr [.record [("source", .str "news"), ("sourceHandle", .str "feeds-handle")]])]

theorem draftFlow_forNode :
    ∃ report, lint .builtin {} draftFlow = .ok report ∧
      lintForNode .builtin {} draftFlow = .ok (report.without wholeFlowCodes) ∧
      (report.without wholeFlowCodes).map (·.code) = [.missingRequiredInput, .missingRequiredInput] := by
  have hends : (lint .builtin {} draftFlow).toOption.isSome = true := by decide +kernel
  have hcodes : (lintForNode .builtin {} draftFlow).map (·.map (·.code)) =
      .ok [.missingRequiredInput, .missingRequiredInput] := by decide +kernel
  cases hreport : lint .builtin {} draftFlow with
  | error e =>
    rw [hreport] at hends
    cases hends
  | ok report =>
    have hnodes := (lintForNode_eq_without .builtin {} draftFlow).2 report hreport
    rw [hnodes] at hcodes
    exact ⟨report, rfl, hnodes, Except.ok.inj hcodes⟩

/-! ### Strictness -/

/-- The second report is the first with further issues in between, all of them with some codes. -/
inductive Adds (codes : List IssueCode) : List Issue → List Issue → Prop
  | nil : Adds codes [] []
  | keep {xs ys : List Issue} (i : Issue) : Adds codes xs ys → Adds codes (i :: xs) (i :: ys)
  | add {xs ys : List Issue} {i : Issue} : i.code ∈ codes → Adds codes xs ys → Adds codes xs (i :: ys)

namespace Adds

variable {codes : List IssueCode} {xs ys xs' ys' : List Issue}

theorem refl : ∀ xs : List Issue, Adds codes xs xs
  | [] => .nil
  | i :: xs => .keep i (refl xs)

theorem append (h : Adds codes xs ys) (h' : Adds codes xs' ys') : Adds codes (xs ++ xs') (ys ++ ys') := by
  induction h with
  | nil => exact h'
  | keep i _ ih => exact .keep i ih
  | add hi _ ih => exact .add hi ih

theorem flatMap {α : Type} {f g : α → List Issue} :
    ∀ {as : List α}, (∀ a ∈ as, Adds codes (f a) (g a)) → Adds codes (as.flatMap f) (as.flatMap g)
  | [], _ => .nil
  | _ :: _, h =>
    (h _ List.mem_cons_self).append (flatMap fun a ha => h a (List.mem_cons_of_mem _ ha))

theorem sublist (h : Adds codes xs ys) : xs.Sublist ys := by
  induction h with
  | nil => exact .slnil
  | keep i _ ih => exact .cons_cons i ih
  | add _ _ ih => exact .cons _ ih

/-- One issue that is reported under a wider condition. -/
theorem ite {p q : Prop} [Decidable p] [Decidable q] {i : Issue} (hpq : p → q) (hi : i.code ∈ codes) :
    Adds codes (if p then [i] else []) (if q then [i] else []) := by
  by_cases hp : p
  · rw [if_pos hp, if_pos (hpq hp)]
    exact refl [i]
  · by_cases hq : q
    · rw [if_neg hp, if_pos hq]
      exact .add hi .nil
    · rw [if_neg hp, if_neg hq]
      exact .nil

/-- One issue that is reported unless a condition holds. -/
theorem ite_nil {p q : Prop} [Decidable p] [Decidable q] {i : Issue} (hpq : p → q) (hi : i.code ∈ codes) :
    Adds codes (if q then [] else [i]) (if p then [] else [i]) := by
  rw [← ite_not q, ← ite_not p]
  exact ite (fun hq hp => hq (hpq hp)) hi

/-- Two runs that agree on all but the form of nodes: what is added to the form of each node is added to the
issues of all. -/
theorem nodesIssues {r r' : Registry} (o o' : Options) {s s' : Snapshot} (hmode : o.mode = o'.mode)
    (hversions : o.requireVersions = o'.requireVersions) (hnodes : s.nodes = s'.nodes) :
    ∀ (seen : List String) (ns : List RawNode),
      (∀ n ∈ ns, ∀ repeated id,
        Adds codes (formIssues r o s repeated n id) (formIssues r' o' s' repeated n id)) →
        Adds codes (WorkflowCheck.nodesIssues r o s seen ns) (WorkflowCheck.nodesIssues r' o' s' seen ns)
  | _, [], _ => .nil
  | seen, n :: ns, hform => by
    have hrest := nodesIssues o o' hmode hversions hnodes (n.id.toList ++ seen) ns
      fun m hm => hform m (List.mem_cons_of_mem n hm)
    refine append ?_ hrest
    cases hid : n.id with
    | none =>
      rw [nodeIssues_of_no_id hid, nodeIssues_of_no_id hid]
      exact refl _
    | some id =>
      have hversion : versionIssues o n id = versionIssues o' n id := by
        rw [versionIssues, versionIssues, hversions]
      have hoverlap : overlapIssues s n id = overlapIssues s' n id := by
        rw [overlapIssues, overlapIssues, hnodes]
      have hwhole : o.checksWholeFlow = o'.checksWholeFlow := by
        rw [Options.checksWholeFlow, Options.checksWholeFlow, hmode]
      rw [nodeIssues_of_id hid, nodeIssues_of_id hid, hversion, hoverlap, hwhole]
      exact append (append (hform n List.mem_cons_self _ id) (refl _)) (refl _)

end Adds

/-- The codes of what only a strict run finds. -/
def strictCodes : List IssueCode :=
  [.requiredInputEmpty, .invalidOutputDeleted]

section Strict

variable {r : Registry} {o : Options} {s : Snapshot} {id : String} {c : Contract}

/-- What is null is empty. -/
theorem Value.isEmpty_of_isNull {v : Value} (h : v.isNull = true) : v.isEmpty = true := by
  cases v with
  | null => rfl
  | _ => cases h

theorem requiredIssues_strict (n : RawNode) (required : String) :
    Adds strictCodes (requiredIssues { o with strict := false } s n id required)
      (requiredIssues { o with strict := true } s n id required) := by
  rw [requiredIssues, requiredIssues]
  cases n.findInput? required with
  | none => exact .refl _
  | some i =>
    refine .ite (fun h => ?_) (show IssueCode.requiredInputEmpty ∈ strictCodes by decide)
    obtain ⟨hunset, hconnected⟩ := Bool.and_eq_true_iff.mp h
    exact Bool.and_eq_true_iff.mpr ⟨Value.isEmpty_of_isNull hunset, hconnected⟩

theorem outputIssues_strict (out : RawOutput) :
    Adds strictCodes (outputIssues { o with strict := false } id c out)
      (outputIssues { o with strict := true } id c out) := by
  rw [outputIssues, outputIssues]
  refine .append (.append (.refl _) (.ite (fun h => ?_) ?_)) (.refl _)
  · exact Bool.and_eq_true_iff.mpr ⟨rfl, (Bool.and_eq_true_iff.mp h).2⟩
  · show IssueCode.invalidOutputDeleted ∈ strictCodes
    decide

theorem formIssues_strict (repeated : Bool) (n : RawNode) :
    Adds strictCodes (formIssues r { o with strict := false } s repeated n id)
      (formIssues r { o with strict := true } s repeated n id) := by
  rw [formIssues, formIssues]
  refine .append (.refl _) ?_
  cases r.checkedContract? n with
  | none => exact .nil
  | some c =>
    refine .append (.append (.flatMap fun required _ => ?_) (.refl _)) (.flatMap fun out _ => ?_)
    · exact requiredIssues_strict n required
    · exact outputIssues_strict out

theorem nodesIssues_strict (seen : List String) (ns : List RawNode) :
    Adds strictCodes (nodesIssues r { o with strict := false } s seen ns)
      (nodesIssues r { o with strict := true } s seen ns) :=
  .nodesIssues { o with strict := false } { o with strict := true } rfl rfl rfl seen ns
    fun n _ repeated _ => formIssues_strict repeated n

theorem Snapshot.issues_strict :
    Adds strictCodes (s.issues r { o with strict := false }) (s.issues r { o with strict := true }) :=
  .append (nodesIssues_strict [] s.nodes) (.refl _)

end Strict

/-! ### Versions -/

section Versions

variable {r : Registry} {o : Options} {s : Snapshot}

open Report (without without_append without_eq_self)

theorem versionIssues_requireVersions (n : RawNode) (id : String) :
    versionIssues { o with requireVersions := false } n id =
      without [.missingNodeVersion] (versionIssues { o with requireVersions := true } n id) := by
  rw [versionIssues, versionIssues]
  split
  · rfl
  · split
    · rfl
    · split_ifs <;> rfl

theorem nodeIssues_requireVersions (repeated : Bool) (n : RawNode) :
    nodeIssues r { o with requireVersions := false } s repeated n =
      without [.missingNodeVersion] (nodeIssues r { o with requireVersions := true } s repeated n) := by
  cases hid : n.id with
  | none =>
    rw [nodeIssues_of_no_id hid, nodeIssues_of_no_id hid]
    rfl
  | some id =>
    have hform : without [.missingNodeVersion] (formIssues r o s repeated n id) =
        formIssues r o s repeated n id := without_eq_self formIssues_bears (by decide)
    have hoverlap : without [.missingNodeVersion] (if o.checksWholeFlow then overlapIssues s n id else []) =
        if o.checksWholeFlow then overlapIssues s n id else [] :=
      without_eq_self (forall_mem_ite_nil fun i hi => (overlapIssues_isOn i hi).bears) (by decide)
    have hlax : nodeIssues r { o with requireVersions := false } s repeated n =
        formIssues r o s repeated n id ++ versionIssues { o with requireVersions := false } n id
          ++ (if o.checksWholeFlow then overlapIssues s n id else []) := nodeIssues_of_id hid
    have hfull : nodeIssues r { o with requireVersions := true } s repeated n =
        formIssues r o s repeated n id ++ versionIssues { o with requireVersions := true } n id
          ++ (if o.checksWholeFlow then overlapIssues s n id else []) := nodeIssues_of_id hid
    rw [hlax, hfull, without_append, without_append, hform, hoverlap, versionIssues_requireVersions]

theorem Snapshot.issues_requireVersions :
    s.issues r { o with requireVersions := false } =
      without [.missingNodeVersion] (s.issues r { o with requireVersions := true }) := by
  have hwhole : without [.missingNodeVersion]
      (if o.checksWholeFlow then s.edges.flatMap (edgeIssues r s) ++ graphIssues s else []) =
      if o.checksWholeFlow then s.edges.flatMap (edgeIssues r s) ++ graphIssues s else [] := by
    have hbears : ∀ i ∈ s.edges.flatMap (edgeIssues r s) ++ graphIssues s,
        i.Bears (edgeCodes ++ graphCodes) := by
      rw [List.forall_mem_append]
      exact ⟨fun i hi => (flatMap_edgeIssues_bears i hi).mono (by decide),
        fun i hi => (graphIssues_bears i hi).mono (by decide)⟩
    exact without_eq_self (forall_mem_ite_nil hbears) (by decide)
  have hfull : s.issues r { o with requireVersions := true } =
      nodesIssues r { o with requireVersions := true } s [] s.nodes
        ++ (if o.checksWholeFlow then s.edges.flatMap (edgeIssues r s) ++ graphIssues s else []) := rfl
  rw [hfull, without_append, hwhole, ← nodesIssues_without nodeIssues_requireVersions]
  rfl

end Versions

/-- **A strict run** fails where the other one does, and adds issues of `strictCodes` alone to its report.
**A run that requires versions** fails where the other one does, and adds the warnings of missing versions
alone, so that both reports have errors or neither has. -/
theorem lint_switches (r : Registry) (o : Options) (flow : Value) :
    (∀ e, lint r { o with strict := false } flow = .error e ↔
        lint r { o with strict := true } flow = .error e) ∧
      (∀ lax strict, lint r { o with strict := false } flow = .ok lax →
        lint r { o with strict := true } flow = .ok strict →
          lax.Sublist strict ∧ Adds strictCodes lax strict) ∧
      lint r { o with requireVersions := false } flow =
        (lint r { o with requireVersions := true } flow).map (Report.without [.missingNodeVersion]) ∧
      ∀ report, lint r { o with requireVersions := true } flow = .ok report →
        (report.without [.missingNodeVersion]).hasErrors = report.hasErrors := by
  refine ⟨fun e => ?fails, fun lax strict hlax hstrict => ?adds, ?versions, fun report hreport => ?errors⟩
  case fails =>
    rw [lint, lint]
    cases RawFlow.ofValue flow with
    | malformed issue => exact Iff.rfl
    | snapshot s =>
      have herror : s.error? r { o with strict := false } = s.error? r { o with strict := true } :=
        Snapshot.error?_congr rfl
      dsimp only [Snapshot.lint]
      rw [herror]
      cases s.error? r { o with strict := true } with
      | none => exact iff_of_false (by rintro ⟨⟩) (by rintro ⟨⟩)
      | some e => exact Iff.rfl
  case adds =>
    have hadds : Adds strictCodes lax strict := by
      rw [lint] at hlax hstrict
      cases hflow : RawFlow.ofValue flow with
      | malformed issue =>
        rw [hflow] at hlax hstrict
        cases hlax
        cases hstrict
        exact .refl _
      | snapshot s =>
        rw [hflow] at hlax hstrict
        rw [← (Snapshot.lint_eq_ok_iff.mp hlax).2, ← (Snapshot.lint_eq_ok_iff.mp hstrict).2]
        exact Snapshot.issues_strict
    exact ⟨hadds.sublist, hadds⟩
  case versions =>
    rw [lint, lint]
    cases hflow : RawFlow.ofValue flow with
    | malformed issue =>
      have hself : Report.without [.missingNodeVersion] [issue] = [issue] :=
        Report.without_eq_self (RawFlow.bears_of_malformed hflow) (by decide)
      exact congrArg Except.ok hself.symm
    | snapshot s =>
      have herror : s.error? r { o with requireVersions := false } =
          s.error? r { o with requireVersions := true } := Snapshot.error?_congr rfl
      dsimp only [Snapshot.lint]
      rw [herror, Snapshot.issues_requireVersions]
      cases s.error? r { o with requireVersions := true } with
      | none => rfl
      | some e => rfl
  case errors => exact Report.hasErrors_without (severity_of_mem_lint hreport) (by decide)

theorem draftFlow_switches :
    ∃ lax strict, lint .builtin { mode := .node } draftFlow = .ok lax ∧
      lint .builtin { mode := .node, strict := true } draftFlow = .ok strict ∧
      Adds strictCodes lax strict ∧ strict.length = lax.length + 2 := by
  have hlength : ∀ strict, (lint .builtin { mode := .node, strict } draftFlow).map List.length =
      .ok (if strict then 4 else 2) := by decide +kernel
  have hlax := hlength false
  have hstrict := hlength true
  cases hlaxRun : lint .builtin { mode := .node } draftFlow with
  | error e =>
    rw [hlaxRun] at hlax
    cases hlax
  | ok lax =>
    cases hstrictRun : lint .builtin { mode := .node, strict := true } draftFlow with
    | error e =>
      rw [hstrictRun] at hstrict
      cases hstrict
    | ok strict =>
      rw [hlaxRun] at hlax
      rw [hstrictRun] at hstrict
      refine ⟨lax, strict, rfl, rfl, ?_, ?_⟩
      · exact ((lint_switches .builtin { mode := .node } draftFlow).2.1 lax strict hlaxRun hstrictRun).2
      · exact (Except.ok.inj hstrict).trans (congrArg (· + 2) (Except.ok.inj hlax)).symm

end WorkflowCheck
