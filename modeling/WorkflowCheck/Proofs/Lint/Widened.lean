import WorkflowCheck.Proofs.Lint.Switches

/-!
# Wider contracts

A contract is wider than another one if it asks for the same inputs and declares what the other one
declares, and more (`Contract.Widens`).  A run with wider contracts for the types that a flow uses ends as
the run with the others does, and its report leaves out issues of four codes at most (`lint_widened`).  So
the contract of a type that no node of the flow uses is of no account.
-/

namespace WorkflowCheck

/-! ### What is declared -/

/-- The second contract asks for what the first one asks for, and declares at least as much. -/
structure Contract.Widens (c c' : Contract) : Prop where
  required : c'.requiredInputs = c.requiredInputs
  dynamic : c'.dynamicField = c.dynamicField
  optional : c.optionalInputs ⊆ c'.declaredInputs
  outputs : c.outputs ⊆ c'.outputs

/-- The second registry knows the types of a flow that the first one knows, by contracts that are at least
as wide. -/
def Registry.Widens (r r' : Registry) (flow : Value) : Prop :=
  ∀ n ∈ flowNodes flow, ∀ type, n.field "type" = .str type →
    Option.Rel Contract.Widens (r.get? type) (r'.get? type)

/-- What the second registry knows of a node's type is at least as wide. -/
def Registry.WidensAt (r r' : Registry) (n : RawNode) : Prop :=
  Option.Rel Contract.Widens (r.contractOf? n) (r'.contractOf? n)

/-- The codes of what a wider contract may settle. -/
def declarationCodes : List IssueCode :=
  [.unknownInput, .unknownOutput, .invalidEdgeSourceHandle, .invalidEdgeTargetHandle]

theorem Contract.Widens.refl (c : Contract) : c.Widens c :=
  ⟨rfl, rfl, fun _ h => List.mem_append_right _ h, fun _ h => h⟩

theorem rel_widens_refl : ∀ c : Option Contract, Option.Rel Contract.Widens c c
  | none => .none
  | some c => .some (.refl c)

section Contracts

variable {c c' : Contract} {n : RawNode}

theorem Contract.Widens.declaredInputs_subset (h : c.Widens c') : c.declaredInputs ⊆ c'.declaredInputs := by
  refine List.append_subset.mpr ⟨?_, h.optional⟩
  rw [declaredInputs, h.required]
  exact List.subset_append_left _ _

theorem Contract.Widens.dynamicInputs_eq (h : c.Widens c') : dynamicInputs n c' = dynamicInputs n c := by
  rw [dynamicInputs, dynamicInputs, dynamicName?, dynamicName?, h.dynamic]

theorem Contract.Widens.allowedInputs_subset (h : c.Widens c') : allowedInputs n c ⊆ allowedInputs n c' := by
  rw [allowedInputs, allowedInputs, h.dynamicInputs_eq]
  exact List.append_subset.mpr
    ⟨List.Subset.trans h.declaredInputs_subset (List.subset_append_left _ _), List.subset_append_right _ _⟩

end Contracts

section Handles

variable {r r' : Registry} {n : RawNode}

theorem outputHandles_subset (h : r.WidensAt r' n) : outputHandles r n ⊆ outputHandles r' n := by
  rw [Registry.WidensAt] at h
  rw [outputHandles, outputHandles]
  generalize r.contractOf? n = c at h ⊢
  generalize r'.contractOf? n = c' at h ⊢
  cases h with
  | none => exact List.Subset.refl _
  | some h =>
    exact List.append_subset.mpr
      ⟨List.subset_append_left _ _, List.Subset.trans h.outputs (List.subset_append_right _ _)⟩

theorem inputHandles_subset (h : r.WidensAt r' n) : inputHandles r n ⊆ inputHandles r' n := by
  rw [Registry.WidensAt] at h
  rw [inputHandles, inputHandles]
  generalize r.contractOf? n = c at h ⊢
  generalize r'.contractOf? n = c' at h ⊢
  cases h with
  | none => exact List.Subset.refl _
  | some h =>
    exact List.append_subset.mpr
      ⟨List.subset_append_left _ _, List.Subset.trans h.allowedInputs_subset (List.subset_append_right _ _)⟩

end Handles

/-! ### What each rule reports -/

section Rules

variable {r r' : Registry} {o : Options} {s : Snapshot} {n : RawNode} {e : RawEdge} {id : String}
  {c c' : Contract}

theorem hasUnknownType_widens (h : r.WidensAt r' n) :
    hasUnknownType r' n = hasUnknownType r n := by
  rw [hasUnknownType, hasUnknownType]
  rw [Registry.WidensAt] at h
  generalize r.contractOf? n = c at h ⊢
  generalize r'.contractOf? n = c' at h ⊢
  cases h with
  | none => rfl
  | some h => rfl

theorem WidensAt.checkedContract? (h : r.WidensAt r' n) :
    Option.Rel Contract.Widens (r.checkedContract? n) (r'.checkedContract? n) := by
  rw [Registry.checkedContract?, Registry.checkedContract?]
  split_ifs
  · exact .none
  · exact h

theorem typeIssues_widens (h : r.WidensAt r' n) :
    typeIssues r' n id = typeIssues r n id := by
  rw [typeIssues, typeIssues, hasUnknownType_widens h]

theorem inputsIssues_widens (h : c.Widens c') :
    Adds declarationCodes (inputsIssues o s n id c') (inputsIssues o s n id c) := by
  rw [inputsIssues, inputsIssues, h.required]
  refine .append (.refl _) (.flatMap fun input _ => ?_)
  rw [inputIssues, inputIssues]
  cases input.id with
  | none => exact .refl _
  | some field =>
    have hcode : IssueCode.unknownInput ∈ declarationCodes := by decide
    exact .ite_nil (fun hfield => h.allowedInputs_subset hfield) hcode

theorem outputIssues_widens (h : c.Widens c') (out : RawOutput) :
    Adds declarationCodes (outputIssues o id c' out) (outputIssues o id c out) := by
  rw [outputIssues, outputIssues]
  refine .append (.refl _) ?_
  cases out.id with
  | none => exact .refl _
  | some field =>
    have hcode : IssueCode.unknownOutput ∈ declarationCodes := by decide
    exact .ite_nil (fun hfield => h.outputs hfield) hcode

theorem formIssues_widens (h : r.WidensAt r' n) (repeated : Bool) :
    Adds declarationCodes (formIssues r' o s repeated n id) (formIssues r o s repeated n id) := by
  rw [formIssues, formIssues, typeIssues_widens h]
  refine .append (.refl _) ?_
  have hchecked := WidensAt.checkedContract? h
  generalize r.checkedContract? n = c at hchecked ⊢
  generalize r'.checkedContract? n = c' at hchecked ⊢
  cases hchecked with
  | none => exact .nil
  | some h => exact .append (inputsIssues_widens h) (.flatMap fun out _ => outputIssues_widens h out)

/-- More handles are more that an edge may name. -/
theorem handleIssues_widens {ending handle : Option String} {handles handles' : RawNode → List String}
    {name : String} {code : IssueCode} (hcode : code ∈ declarationCodes)
    (h : ∀ id n, s.node? id = some n → handles n ⊆ handles' n) :
    Adds declarationCodes (handleIssues s e ending handle handles' name code)
      (handleIssues s e ending handle handles name code) := by
  unfold handleIssues
  cases ending with
  | none => exact .nil
  | some id =>
    cases handle with
    | none => exact .nil
    | some field =>
      dsimp only
      cases hn : s.node? id with
      | none => exact .nil
      | some n => exact .ite_nil (fun hfield => h id n hn hfield) hcode

theorem edgeIssues_widens (h : ∀ id n, s.node? id = some n → r.WidensAt r' n) :
    Adds declarationCodes (edgeIssues r' s e) (edgeIssues r s e) := by
  rw [edgeIssues, edgeIssues]
  refine .append (.append (.refl _) ?_) ?_
  · exact handleIssues_widens (by decide) fun id n hn => outputHandles_subset (h id n hn)
  · exact handleIssues_widens (by decide) fun id n hn => inputHandles_subset (h id n hn)

theorem Snapshot.issues_widens (hnodes : ∀ n ∈ s.nodes, r.WidensAt r' n)
    (hfound : ∀ id n, s.node? id = some n → n ∈ s.nodes) :
    Adds declarationCodes (s.issues r' o) (s.issues r o) := by
  rw [issues, issues]
  refine .append (.nodesIssues o o rfl rfl rfl [] s.nodes fun n hn repeated _ =>
    formIssues_widens (hnodes n hn) repeated) ?_
  split
  · refine .append (.flatMap fun e _ => ?_) (.refl _)
    exact edgeIssues_widens fun id n hn => hnodes n (hfound id n hn)
  · exact .nil

/-- What ends a run depends on which types are known, not on their contracts. -/
theorem Snapshot.nodeError?_widens (h : r.WidensAt r' n) : s.nodeError? r' o n = s.nodeError? r o n := by
  rw [nodeError?, nodeError?, hasUnknownType_widens h]

theorem Snapshot.findSome?_nodeError?_widens :
    ∀ ns : List RawNode,
      (∀ n ∈ ns, r.WidensAt r' n) → ns.findSome? (s.nodeError? r' o) = ns.findSome? (s.nodeError? r o)
  | [], _ => rfl
  | n :: ns, h => by
    rw [List.findSome?_cons, List.findSome?_cons, nodeError?_widens (h n List.mem_cons_self),
      findSome?_nodeError?_widens ns fun m hm => h m (List.mem_cons_of_mem n hm)]

end Rules

/-! ### Whole runs -/

section Runs

variable {r r' : Registry} {o : Options} {flow : Value}

theorem Registry.Widens.widensAt (h : r.Widens r' flow) :
    ∀ n ∈ (flowSnapshot flow).nodes, r.WidensAt r' n := by
  intro n hn
  obtain ⟨k, v, hv, rfl⟩ := mem_readIndexed.mp hn
  rw [WidensAt, Registry.contractOf?, Registry.contractOf?]
  cases htype : (RawNode.ofValue k v).type.text? with
  | none => exact .none
  | some type => exact h v (List.mem_of_getElem? hv) type (Value.text?_eq_some_iff.mp htype)

theorem Registry.widens_of_get?_eq
    (h : ∀ n ∈ flowNodes flow, ∀ type, n.field "type" = .str type → r'.get? type = r.get? type) :
    r.Widens r' flow := by
  intro n hn type htype
  rw [h n hn type htype]
  exact rel_widens_refl _

/-- The contract of another type is the same with one more contract. -/
theorem Registry.get?_withContract_of_ne {c : Contract} {type : String} (h : type ≠ c.type) :
    (r.withContract c).get? type = r.get? type :=
  Table.get?_alter_of_ne h.symm _ _

theorem lint_of_widens (h : r.Widens r' flow) :
    (∀ e, lint r' o flow = .error e ↔ lint r o flow = .error e) ∧
      ∀ report, lint r o flow = .ok report →
        ∃ report', lint r' o flow = .ok report' ∧ Adds declarationCodes report' report := by
  have herror : (flowSnapshot flow).error? r' o = (flowSnapshot flow).error? r o :=
    Snapshot.findSome?_nodeError?_widens _ h.widensAt
  rcases ofValue_cases flow with ⟨hlists, -⟩ | ⟨-, issue, hflow, -⟩
  · rw [lint_eq_snapshot hlists, lint_eq_snapshot hlists]
    refine ⟨fun e => ?fails, fun report hreport => ?reports⟩
    case fails => rw [Snapshot.lint_eq_error_iff, Snapshot.lint_eq_error_iff, herror]
    case reports =>
      obtain ⟨hnone, rfl⟩ := Snapshot.lint_eq_ok_iff.mp hreport
      refine ⟨_, Snapshot.lint_eq_ok_iff.mpr ⟨herror.trans hnone, rfl⟩, ?_⟩
      exact Snapshot.issues_widens h.widensAt fun id n hn => mem_nodes_of_node? hn
  · rw [lint, lint, hflow]
    exact ⟨fun e => Iff.rfl, fun report hreport => ⟨report, hreport, .refl _⟩⟩

/-- **Wider contracts settle issues and raise none.**  With contracts that are as wide for the types that a
flow uses, a run fails where the other one does; its report is the other one with some issues left out, of
inputs, outputs and handles that were not declared.  A contract for a type that no node has changes
nothing. -/
theorem lint_widened (r : Registry) (o : Options) (flow : Value) :
    (∀ r', r.Widens r' flow →
      (∀ e, lint r' o flow = .error e ↔ lint r o flow = .error e) ∧
        ∀ report, lint r o flow = .ok report →
          ∃ report', lint r' o flow = .ok report' ∧ report'.Sublist report ∧
            Adds declarationCodes report' report) ∧
      ∀ c, (∀ n ∈ flowNodes flow, n.field "type" ≠ .str c.type) →
        lint (r.withContract c) o flow = lint r o flow := by
  refine ⟨fun r' h => ⟨(lint_of_widens h).1, fun report hreport => ?narrows⟩, fun c hunused => ?unused⟩
  case narrows =>
    obtain ⟨report', hreport', hadds⟩ := (lint_of_widens h).2 report hreport
    exact ⟨report', hreport', hadds.sublist, hadds⟩
  case unused =>
    have hget : ∀ n ∈ flowNodes flow, ∀ type, n.field "type" = .str type →
        (r.withContract c).get? type = r.get? type := by
      intro n hn type htype
      refine Registry.get?_withContract_of_ne ?_
      rintro rfl
      exact hunused n hn htype
    have hto : r.Widens (r.withContract c) flow := Registry.widens_of_get?_eq hget
    have hback : (r.withContract c).Widens r flow :=
      Registry.widens_of_get?_eq fun n hn type htype => (hget n hn type htype).symm
    cases hreport : lint r o flow with
    | error e => exact ((lint_of_widens hto).1 e).mpr hreport
    | ok report =>
      obtain ⟨report', hreport', hadds⟩ := (lint_of_widens hto).2 report hreport
      obtain ⟨report'', hreport'', hadds'⟩ := (lint_of_widens hback).2 report' hreport'
      cases hreport.symm.trans hreport''
      rw [hreport', hadds.sublist.antisymm hadds'.sublist]

end Runs

/-- A registry of one type, with some optional inputs and outputs. -/
def feedRegistry (inputs outputs : List String) : Registry :=
  ⟨[("feed_node", ⟨"feed_node", .input, "", [], inputs, outputs, none⟩)]⟩

/-- A node with an input and an output. -/
def feedFlow : Value :=
  .record
    [("nodes", .arr
      [.record
        [("id", .str "news"), ("type", .str "feed_node"),
          ("position", .record [("x", .int 0), ("y", .int 0)]),
          ("inputs", .arr [.record [("id", .str "rate"), ("value", .int 1)]]),
          ("outputs", .arr [.record [("id", .str "items")]])]]),
      ("edges", .arr [])]

theorem feedFlow_widens :
    (feedRegistry [] []).Widens (feedRegistry ["rate"] ["items"]) feedFlow := by
  refine List.forall_mem_singleton.mpr fun type htype => ?_
  cases htype
  exact .some ⟨rfl, rfl, List.nil_subset _, List.nil_subset _⟩

theorem feedFlow_widened :
    ∃ report, lint (feedRegistry [] []) { mode := .node } feedFlow = .ok report ∧
      report.map (·.code) = [.unknownInput, .unknownOutput] ∧
      (∃ report', lint (feedRegistry ["rate"] ["items"]) { mode := .node } feedFlow = .ok report' ∧
        report'.Sublist report ∧ Adds declarationCodes report' report) ∧
      lint ((feedRegistry [] []).withContract ⟨"sheet_node", .output, "", ["link"], [], [], none⟩)
        { mode := .node } feedFlow = .ok report := by
  have hwidened := lint_widened (feedRegistry [] []) { mode := .node } feedFlow
  have hreport : lint (feedRegistry [] []) { mode := .node } feedFlow =
      .ok ((flowSnapshot feedFlow).issues (feedRegistry [] []) { mode := .node }) := by
    rw [lint_eq_snapshot ⟨rfl, rfl, rfl⟩]
    exact Snapshot.lint_eq_ok_iff.mpr ⟨by decide +kernel, rfl⟩
  refine ⟨_, hreport, by decide +kernel, (hwidened.1 _ feedFlow_widens).2 _ hreport, ?_⟩
  refine (hwidened.2 _ (List.forall_mem_singleton.mpr fun htype => ?_)).trans hreport
  exact absurd (Value.str.inj htype) (by decide)

end WorkflowCheck
