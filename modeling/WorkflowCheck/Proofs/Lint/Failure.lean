import WorkflowCheck.Proofs.Lint.Raw
import WorkflowCheck.Proofs.Value.Showable
import WorkflowCheck.Registry.Builtin

/-!
# Flows that end a run without a report

A run reads coordinates as doubles and shows types and versions in its messages, and both can fail: an
integer may be past the largest double, or have too many digits.  `lint_fails_iff` says in which flows
that happens.  The rules of a node stop at its first failure, but whether some node fails does not depend
on the order of the rules, nor on which pairs of nodes are compared.
-/

namespace WorkflowCheck

/-! ### Failures of a snapshot -/

section Nodes

variable {r : Registry} {o : Options} {s : Snapshot} {n : RawNode}

/-- The reasons for which a run ends at a node with an id. -/
theorem exists_nodeError?_iff :
    (∃ e, s.nodeError? r o n = some e) ↔
      (∃ id, n.id = some id) ∧
        ((hasUnknownType r n = true ∧ n.type.isShowable = false) ∨ n.place = .oversized ∨
          (hasUnknownVersion n = true ∧ (n.version.getD .null).isShowable = false) ∨
          (o.checksWholeFlow = true ∧ s.meetsOversized n = true)) := by
  rw [Snapshot.nodeError?]
  cases n.id with
  | none => simp
  | some id =>
    simp only [Option.isNone_some, Bool.false_eq_true, if_false, Option.some.injEq, exists_eq',
      true_and, Bool.and_eq_true, Bool.not_eq_true']
    split_ifs with htype hplace hversion hmeets
    · exact iff_of_true ⟨_, rfl⟩ (Or.inl htype)
    · exact iff_of_true ⟨_, rfl⟩ (Or.inr (Or.inl (beq_iff_eq.mp hplace)))
    · exact iff_of_true ⟨_, rfl⟩ (Or.inr (Or.inr (Or.inl hversion)))
    · exact iff_of_true ⟨_, rfl⟩ (Or.inr (Or.inr (Or.inr hmeets)))
    · refine iff_of_false (fun ⟨_, h⟩ => nomatch h) ?_
      rintro (h | h | h | h)
      · exact htype h
      · exact hplace (beq_iff_eq.mpr h)
      · exact hversion h
      · exact hmeets h

theorem meetsOversized_eq_true_iff :
    s.meetsOversized n = true ↔
      (∃ here, n.coordinates? = some here) ∧
        ∃ other ∈ s.nodes, reportsPair n other = true ∧ other.place = .oversized := by
  rw [Snapshot.meetsOversized, Bool.and_eq_true, Option.isSome_iff_exists, List.any_eq_true]
  simp only [Bool.and_eq_true, beq_iff_eq]

theorem exists_error?_iff :
    (∃ e, s.error? r o = some e) ↔ ∃ n ∈ s.nodes, ∃ e, s.nodeError? r o n = some e := by
  simp only [Snapshot.error?, ← Option.isSome_iff_exists, List.findSome?_isSome_iff]

end Nodes

/-! ### Failures of a raw flow -/

/-- A node's position has two numbers, and one of them is an integer past the largest double. -/
def HasOversizedPosition (n : Value) : Prop :=
  (n.field "position").HasNumbers ∧ ¬ (n.field "position").HasFittingNumbers

/-- A node's position has two numbers that fit a double. -/
def HasUsablePosition (n : Value) : Prop :=
  (n.field "position").HasNumbers ∧ (n.field "position").HasFittingNumbers

/-- What a run over a flow does not survive at a node: a type or version with an integer of too many
digits, an oversized position, or, in a run over the whole flow, the oversized position of another node
while its own position is usable. -/
def Fails (o : Options) (flow n : Value) : Prop :=
  (∃ id, n.Names "id" id) ∧
    ((n.field "type").HoldsLong ∨ HasOversizedPosition n ∨ (n.field "version").HoldsLong ∨
      (o.mode = .flow ∧ HasUsablePosition n ∧ ∃ m ∈ flowNodes flow, HasOversizedPosition m))

section Raw

variable {r : Registry} {o : Options} {flow v : Value} {index : Nat}

theorem unshownType_iff :
    (hasUnknownType r (RawNode.ofValue index v) = true ∧
        (RawNode.ofValue index v).type.isShowable = false) ↔ (v.field "type").HoldsLong := by
  refine (and_congr_right' (Value.isShowable_eq_false_iff _)).trans (and_iff_right_of_imp fun h => ?_)
  have hcontract : r.contractOf? (RawNode.ofValue index v) = none := by
    rw [Registry.contractOf?, h.text?_eq_none]
    rfl
  rw [hasUnknownType, h.isVoid_eq_false, hcontract]
  rfl

theorem unshownVersion_iff :
    (hasUnknownVersion (RawNode.ofValue index v) = true ∧
        ((RawNode.ofValue index v).version.getD .null).isShowable = false) ↔
      (v.field "version").HoldsLong := by
  refine (and_congr_right' (Value.isShowable_eq_false_iff _)).trans (and_iff_right_of_imp fun h => ?_)
  rw [hasUnknownVersion, h.text?_eq_none, h.isNull_eq_false]
  rfl

theorem isOversized_iff :
    (RawNode.ofValue index v).place = .oversized ↔ HasOversizedPosition v :=
  Place.ofPosition_eq_oversized_iff

theorem isUsable_iff :
    (∃ here, (RawNode.ofValue index v).coordinates? = some here) ↔ HasUsablePosition v :=
  Place.exists_coordinates?_iff

theorem reportsPair_of_ne {n other : RawNode} (hne : other.index ≠ n.index) (hid : other.id = none) :
    reportsPair n other = true := by
  rw [reportsPair, hid, beq_false_of_ne hne]
  simp

theorem checksWholeFlow_iff : o.checksWholeFlow = true ↔ o.mode = .flow :=
  beq_iff_eq

/-- A node with an id ends the run if it fails by itself. -/
theorem exists_nodeError?_of_own {s : Snapshot} (hid : ∃ id, v.Names "id" id)
    (h : (v.field "type").HoldsLong ∨ HasOversizedPosition v ∨ (v.field "version").HoldsLong) :
    ∃ e, s.nodeError? r o (RawNode.ofValue index v) = some e := by
  obtain ⟨id, hid⟩ := hid
  rw [exists_nodeError?_iff, unshownType_iff, isOversized_iff, unshownVersion_iff]
  refine ⟨⟨id, Value.filledText?_field_iff.mpr hid⟩, ?_⟩
  rcases h with h | h | h
  · exact Or.inl h
  · exact Or.inr (Or.inl h)
  · exact Or.inr (Or.inr (Or.inl h))

/-- Some node ends the run exactly if some raw node fails. -/
theorem exists_error?_flowSnapshot_iff :
    (∃ e, (flowSnapshot flow).error? r o = some e) ↔ ∃ n ∈ flowNodes flow, Fails o flow n := by
  rw [exists_error?_iff]
  constructor
  · rintro ⟨n, hn, herror⟩
    obtain ⟨i, v, hv, rfl⟩ := mem_readIndexed.mp hn
    rw [exists_nodeError?_iff, unshownType_iff, isOversized_iff, unshownVersion_iff,
      meetsOversized_eq_true_iff, isUsable_iff, checksWholeFlow_iff] at herror
    obtain ⟨⟨id, hid⟩, hreason⟩ := herror
    refine ⟨v, List.mem_of_getElem? hv, ⟨id, Value.filledText?_field_iff.mp hid⟩, ?_⟩
    rcases hreason with h | h | h | ⟨hmode, husable, other, hother, -, hplace⟩
    · exact Or.inl h
    · exact Or.inr (Or.inl h)
    · exact Or.inr (Or.inr (Or.inl h))
    · obtain ⟨j, w, hw, rfl⟩ := mem_readIndexed.mp hother
      exact Or.inr (Or.inr (Or.inr
        ⟨hmode, husable, w, List.mem_of_getElem? hw, isOversized_iff.mp hplace⟩))
  · rintro ⟨v, hv, hid, hreason⟩
    obtain ⟨i, hi⟩ := List.mem_iff_getElem?.mp hv
    have hn : RawNode.ofValue i v ∈ (flowSnapshot flow).nodes := mem_readIndexed.mpr ⟨i, v, hi, rfl⟩
    rcases hreason with h | h | h | ⟨hmode, husable, w, hw, hover⟩
    · exact ⟨_, hn, exists_nodeError?_of_own hid (Or.inl h)⟩
    · exact ⟨_, hn, exists_nodeError?_of_own hid (Or.inr (Or.inl h))⟩
    · exact ⟨_, hn, exists_nodeError?_of_own hid (Or.inr (Or.inr h))⟩
    · obtain ⟨j, hj⟩ := List.mem_iff_getElem?.mp hw
      have hm : RawNode.ofValue j w ∈ (flowSnapshot flow).nodes := mem_readIndexed.mpr ⟨j, w, hj, rfl⟩
      by_cases hwid : ∃ id, w.Names "id" id
      · -- the other node fails by itself, whichever of the two comes first
        exact ⟨_, hm, exists_nodeError?_of_own hwid (Or.inr (Or.inl hover))⟩
      · -- the other node has no id, so the pair is compared from this one
        refine ⟨_, hn, ?_⟩
        rw [exists_nodeError?_iff, meetsOversized_eq_true_iff, isUsable_iff, checksWholeFlow_iff]
        obtain ⟨id, hid⟩ := hid
        refine ⟨⟨id, Value.filledText?_field_iff.mpr hid⟩, Or.inr (Or.inr (Or.inr
          ⟨hmode, husable, _, hm, reportsPair_of_ne ?_ ?_, isOversized_iff.mpr hover⟩))⟩
        · intro hindex
          have hsame : j = i := hindex
          subst hsame
          cases hi.symm.trans hj
          exact hover.2 husable.2
        · rw [← Option.not_isSome_iff_eq_none]
          exact fun hsome => hwid (Value.isSome_filledText?_field.mp hsome)

/-- A run ends without a report exactly in a flow with a node that fails. -/
theorem lint_fails_iff (r : Registry) (o : Options) (flow : Value) :
    (∃ e, lint r o flow = .error e) ↔ HasLists flow ∧ ∃ n ∈ flowNodes flow, Fails o flow n := by
  rw [lint]
  rcases ofValue_cases flow with ⟨hlists, hflow⟩ | ⟨hlists, issue, hflow, -⟩
  · rw [hflow, ← exists_error?_flowSnapshot_iff]
    simp only [Snapshot.lint]
    cases (flowSnapshot flow).error? r o with
    | none => simp
    | some e => simp [hlists]
  · rw [hflow]
    exact iff_of_false (fun ⟨e, he⟩ => nomatch he) fun h => hlists h.1

end Raw

/-- A flow with one node, far out. -/
def farFlow : Value :=
  .record
    [("nodes", .arr
      [.record
        [("id", .str "news"), ("type", .str "rss_listener_node"),
          ("position", .record [("x", .int Double.leastOversized), ("y", .int 0)]),
          ("inputs", .arr [.record [("id", .str "route"), ("value", .str "daily")]])]]),
      ("edges", .arr [])]

theorem lint_farFlow : lint .builtin {} farFlow = .error .oversizedCoordinate := by
  decide +kernel

/-! ### Runs that end with a report -/

section Ends

variable {r : Registry} {o : Options} {s : Snapshot} {flow : Value}

/-- A run ends with the issues of its snapshot as the report, unless something stops it. -/
theorem Snapshot.lint_eq_ok_iff {report : Report} :
    s.lint r o = .ok report ↔ s.error? r o = none ∧ s.issues r o = report := by
  rw [Snapshot.lint]
  cases s.error? r o with
  | none => exact ⟨fun h => ⟨rfl, Except.ok.inj h⟩, fun h => congrArg Except.ok h.2⟩
  | some e => exact iff_of_false (by rintro ⟨⟩) (by rintro ⟨⟨⟩, -⟩)

theorem Snapshot.lint_eq_error_iff {e : RunError} : s.lint r o = .error e ↔ s.error? r o = some e := by
  rw [Snapshot.lint]
  cases s.error? r o with
  | none => exact iff_of_false (by rintro ⟨⟩) (by rintro ⟨⟩)
  | some e' => exact ⟨fun h => congrArg some (Except.error.inj h), fun h => congrArg _ (Option.some.inj h)⟩

/-- Of a given flow it can be computed that a run ends with a report. -/
theorem exists_report_of_isSome (h : (lint r o flow).toOption.isSome = true) :
    ∃ report, lint r o flow = .ok report := by
  cases hreport : lint r o flow with
  | error e =>
    rw [hreport] at h
    cases h
  | ok report => exact ⟨report, rfl⟩

theorem lint_eq_snapshot (h : HasLists flow) : lint r o flow = (flowSnapshot flow).lint r o := by
  rcases ofValue_cases flow with ⟨-, hflow⟩ | ⟨hlists, -⟩
  · rw [lint, hflow]
  · exact absurd h hlists

/-- A report is the one issue of what is no flow, or the issues of a snapshot that nothing stops. -/
theorem lint_eq_ok_cases {report : Report} (h : lint r o flow = .ok report) :
    (∃ issue, RawFlow.ofValue flow = .malformed issue ∧ report = [issue]) ∨
      (HasLists flow ∧ (flowSnapshot flow).error? r o = none ∧
        report = (flowSnapshot flow).issues r o) := by
  rcases ofValue_cases flow with ⟨hlists, -⟩ | ⟨-, issue, hflow, -⟩
  · rw [lint_eq_snapshot hlists] at h
    obtain ⟨herror, hissues⟩ := Snapshot.lint_eq_ok_iff.mp h
    exact Or.inr ⟨hlists, herror, hissues.symm⟩
  · rw [lint, hflow] at h
    exact Or.inl ⟨issue, hflow, (Except.ok.inj h).symm⟩

/-- A run over a flow with lists ends with a report unless some node fails. -/
theorem exists_lint_eq_ok_iff (h : HasLists flow) :
    (∃ report, lint r o flow = .ok report) ↔ ¬ ∃ n ∈ flowNodes flow, Fails o flow n := by
  have hends : (∃ report, (flowSnapshot flow).lint r o = .ok report) ↔
      (flowSnapshot flow).error? r o = none := by
    constructor
    · rintro ⟨report, hreport⟩
      exact (Snapshot.lint_eq_ok_iff.mp hreport).1
    · intro hnone
      exact ⟨_, Snapshot.lint_eq_ok_iff.mpr ⟨hnone, rfl⟩⟩
  rw [lint_eq_snapshot h, hends, ← exists_error?_flowSnapshot_iff (r := r), ← Option.ne_none_iff_exists',
    not_not]

end Ends

end WorkflowCheck
