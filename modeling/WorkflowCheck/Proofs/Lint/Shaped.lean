import WorkflowCheck.Proofs.Lint.Marks

/-!
# What the schema spares the rules

Some rules only ask that a flow has the parts that it must have: lists of nodes and edges, and nodes with an
id, a type, a position of two numbers and fields with ids.  `Lacks` says that a list of issues has none of
some codes, and for each of those rules one lemma says when it reports nothing (`lacks_nodeIssues`,
`Snapshot.lacks_issues`).  A flow that was read in either view has all these parts, so a run over it ends
with a report in which none of those rules speaks (`Flow.lint_shaped`).
-/

namespace WorkflowCheck

open Decode

/-! ### Lists of issues without some codes -/

/-- No issue of the list has one of some codes. -/
def Lacks (codes : List IssueCode) (issues : List Issue) : Prop :=
  ∀ i ∈ issues, i.code ∉ codes

section Lists

variable {codes codes' : List IssueCode} {xs ys : List Issue}

@[simp] theorem lacks_nil : Lacks codes [] :=
  List.forall_mem_nil _

@[simp] theorem lacks_append : Lacks codes (xs ++ ys) ↔ Lacks codes xs ∧ Lacks codes ys :=
  List.forall_mem_append

@[simp] theorem lacks_singleton {i : Issue} : Lacks codes [i] ↔ i.code ∉ codes :=
  List.forall_mem_singleton

@[simp] theorem lacks_flatMap {α : Type} {as : List α} {f : α → List Issue} :
    Lacks codes (as.flatMap f) ↔ ∀ a ∈ as, Lacks codes (f a) := by
  unfold Lacks
  constructor
  · intro h a ha i hi
    exact h i (List.mem_flatMap.mpr ⟨a, ha, hi⟩)
  · intro h i hi
    obtain ⟨a, ha, hi⟩ := List.mem_flatMap.mp hi
    exact h a ha i hi

theorem lacks_of_bears (h : ∀ i ∈ xs, i.Bears codes') (hother : ∀ code ∈ codes', code ∉ codes) :
    Lacks codes xs :=
  fun i hi => hother i.code (h i hi).1

/-- Of issues whose codes are among some exactly if they are errors. -/
theorem lacks_iff_clean (h : ∀ i ∈ xs, i.Bears codes')
    (herrors : ∀ code ∈ codes', code ∈ codes ↔ code.severity = .error) : Lacks codes xs ↔ Clean xs := by
  refine forall₂_congr fun i hi => ?_
  obtain ⟨hcode, hseverity⟩ := h i hi
  rw [herrors i.code hcode, Issue.isError, hseverity]
  cases i.code.severity <;> decide

/-- A rule that reports one issue with such a code under a condition. -/
theorem lacks_ite_iff {p : Prop} [Decidable p] {i : Issue} (h : i.code ∈ codes) :
    Lacks codes (if p then [i] else []) ↔ ¬ p := by
  by_cases hp : p
  · rw [if_pos hp, lacks_singleton]
    exact iff_of_false (not_not_intro h) (not_not_intro hp)
  · rw [if_neg hp]
    exact iff_of_true lacks_nil hp

end Lists

/-! ### Rules for the shape of a node -/

/-- The codes of what a flow must have to be one. -/
def unshapedCodes : List IssueCode :=
  shapeCodes ++ [.missingNodeId, .missingNodeType, .missingNodePosition, .invalidNodePosition,
    .missingInputId, .missingOutputId]

/-- A node has an id, a type and a position, and if its type is known, its fields have ids. -/
structure RawNode.IsShaped (r : Registry) (n : RawNode) : Prop where
  named : ∃ id, n.id = some id
  typed : n.type.isVoid = false
  placed : ∃ here, n.coordinates? = some here
  fields : ∀ c, r.contractOf? n = some c →
    (∀ i ∈ n.inputs, ∃ field, i.id = some field) ∧ ∀ out ∈ n.outputs, ∃ field, out.id = some field

section Rules

variable {r : Registry} {o : Options} {s : Snapshot} {n : RawNode} {id : String} {c : Contract}

theorem lacks_typeIssues : Lacks unshapedCodes (typeIssues r n id) ↔ n.type.isVoid = false := by
  have hmissing : IssueCode.missingNodeType ∈ unshapedCodes := by decide
  have hunknown : IssueCode.invalidNodeType ∉ unshapedCodes := by decide
  rw [typeIssues]
  cases n.type.isVoid with
  | true => exact iff_of_false (fun h => h _ (List.mem_singleton_self _) hmissing) (by decide)
  | false =>
    refine iff_of_true (fun i hi => ?_) rfl
    rw [if_neg Bool.false_ne_true, List.mem_ite_nil_right, List.mem_singleton] at hi
    rw [hi.2]
    exact hunknown

theorem lacks_positionIssues :
    Lacks unshapedCodes (positionIssues n id) ↔ ∃ here, n.coordinates? = some here :=
  (lacks_iff_clean (fun i hi => (positionIssues_isOn i hi).bears) (by decide)).trans clean_positionIssues

theorem lacks_inputsIssues :
    Lacks unshapedCodes (inputsIssues o s n id c) ↔ ∀ i ∈ n.inputs, ∃ field, i.id = some field := by
  have hrequired : ∀ required ∈ c.requiredInputs, Lacks unshapedCodes (requiredIssues o s n id required) :=
    fun required _ => lacks_of_bears (fun i hi => (requiredIssues_isOnField i hi).bears) (by decide)
  have hinput : ∀ allowed, ∀ i, Lacks unshapedCodes (inputIssues allowed id i) ↔
      ∃ field, i.id = some field := fun allowed i =>
    (lacks_iff_clean inputIssues_bears (by decide)).trans clean_inputIssues
  rw [inputsIssues, lacks_append, lacks_flatMap, lacks_flatMap]
  simp only [hinput]
  exact and_iff_right hrequired

theorem lacks_outputIssues {out : RawOutput} :
    Lacks unshapedCodes (outputIssues o id c out) ↔ ∃ field, out.id = some field := by
  have hmissing : IssueCode.missingOutputId ∈ unshapedCodes := by decide
  have hmark : IssueCode.invalidOutputDeleted ∉ unshapedCodes := by decide
  have hunknown : IssueCode.unknownOutput ∉ unshapedCodes := by decide
  rw [outputIssues, lacks_append, lacks_append, lacks_ite_iff hmissing]
  cases out.id with
  | none => exact iff_of_false (fun h => h.1.1 rfl) (by simp)
  | some field =>
    refine iff_of_true ⟨⟨by simp, ?_⟩, ?_⟩ ⟨field, rfl⟩
    · exact forall_mem_ite_nil (List.forall_mem_singleton.mpr hmark)
    · dsimp only
      split_ifs
      · exact lacks_nil
      · exact lacks_singleton.mpr hunknown

theorem lacks_formIssues {repeated : Bool} :
    Lacks unshapedCodes (formIssues r o s repeated n id) ↔
      n.type.isVoid = false ∧ (∃ here, n.coordinates? = some here) ∧
        ∀ c, r.contractOf? n = some c → (∀ i ∈ n.inputs, ∃ field, i.id = some field) ∧
          ∀ out ∈ n.outputs, ∃ field, out.id = some field := by
  rw [formIssues, lacks_append, lacks_append, lacks_append, lacks_typeIssues, lacks_positionIssues,
    and_iff_right (lacks_of_bears repeatedIssues_bears (by decide)), and_assoc]
  refine and_congr_right fun htyped => and_congr_right' ?_
  rw [Registry.checkedContract?_of_not_isVoid htyped]
  cases r.contractOf? n with
  | none =>
    refine iff_of_true lacks_nil fun c hc => ?_
    cases hc
  | some c =>
    simp only [Option.some.injEq, forall_eq', lacks_append, lacks_inputsIssues, lacks_flatMap,
      lacks_outputIssues]

/-- The rules for the shape of a node find nothing exactly if the node has that shape. -/
theorem lacks_nodeIssues {repeated : Bool} :
    Lacks unshapedCodes (nodeIssues r o s repeated n) ↔ n.IsShaped r := by
  cases hid : n.id with
  | none =>
    have hmissing : IssueCode.missingNodeId ∈ unshapedCodes := by decide
    rw [nodeIssues_of_no_id hid, lacks_singleton]
    refine iff_of_false (not_not_intro hmissing) fun h => ?_
    obtain ⟨id, hsome⟩ := h.named
    rw [hid] at hsome
    cases hsome
  | some id =>
    have hversion : Lacks unshapedCodes (versionIssues o n id) :=
      lacks_of_bears (fun i hi => (versionIssues_isOn i hi).bears) (by decide)
    have hoverlap : Lacks unshapedCodes (if o.checksWholeFlow then overlapIssues s n id else []) :=
      forall_mem_ite_nil (lacks_of_bears (fun i hi => (overlapIssues_isOn i hi).bears) (by decide))
    rw [nodeIssues_of_id hid, lacks_append, lacks_append, and_iff_left hoverlap, and_iff_left hversion,
      lacks_formIssues]
    constructor
    · rintro ⟨htyped, hplaced, hfields⟩
      exact ⟨⟨id, hid⟩, htyped, hplaced, hfields⟩
    · exact fun h => ⟨h.typed, h.placed, h.fields⟩

theorem lacks_nodesIssues :
    ∀ (seen : List String) (ns : List RawNode),
      Lacks unshapedCodes (nodesIssues r o s seen ns) ↔ ∀ n ∈ ns, n.IsShaped r
  | _, [] => by simp [nodesIssues]
  | seen, n :: ns => by
    rw [nodesIssues, lacks_append, lacks_nodeIssues, lacks_nodesIssues _ ns, List.forall_mem_cons]

/-- The rules for the shape of a flow find nothing exactly if all its nodes have their shape. -/
theorem Snapshot.lacks_issues :
    Lacks unshapedCodes (s.issues r o) ↔ ∀ n ∈ s.nodes, n.IsShaped r := by
  have hwhole : Lacks unshapedCodes
      (if o.checksWholeFlow then s.edges.flatMap (edgeIssues r s) ++ graphIssues s else []) := by
    refine forall_mem_ite_nil (lacks_append.mpr ⟨?_, ?_⟩)
    · exact lacks_of_bears flatMap_edgeIssues_bears (by decide)
    · exact lacks_of_bears graphIssues_bears (by decide)
  rw [issues, lacks_append, and_iff_left hwhole, lacks_nodesIssues]

end Rules

/-! ### Flows that were read -/

section Read

variable {r : Registry} {o : Options}

theorem Position.coordinates?_write (p : Position) :
    (Place.ofPosition (p.write .wire)).coordinates? = some (p.x, p.y) := by
  rfl

/-- A stored node with its ids is written with all the parts that a node must have. -/
theorem StoredNode.isShaped_write {n : StoredNode} (hn : n.HasIds) (index : Nat) :
    (RawNode.ofValue index (n.write .wire)).IsShaped r := by
  have hinputs : ∀ i ∈ readIndexed RawInput.ofValue (n.data.inputs.map (StoredInput.write .wire)),
      ∃ field, i.id = some field := by
    refine forall_mem_readIndexed_map fun k i hi => ?_
    rw [i.ofValue_write]
    exact ⟨i.id, filledText?_of_isFilled (hn.data.inputs i hi)⟩
  have houtputs : ∀ out ∈ readIndexed RawOutput.ofValue (n.data.outputs.map (StoredOutput.write .wire)),
      ∃ field, out.id = some field := by
    refine forall_mem_readIndexed_map fun k out hout => ?_
    rw [out.ofValue_write]
    exact ⟨out.id, filledText?_of_isFilled (hn.data.outputs out hout)⟩
  rw [n.ofValue_write]
  refine ⟨⟨n.id, filledText?_of_isFilled hn.id⟩, ?typed, ⟨_, n.position.coordinates?_write⟩,
    fun _ _ => ⟨hinputs, houtputs⟩⟩
  case typed =>
    have hne : n.type ≠ "" := hn.type.1
    show (Value.str n.type).isVoid = false
    simp [Value.isVoid, Value.isEmpty, hne]

/-- **A flow that was read in either view** is saved without a problem, and a run over it ends with a report
that has no issue of a rule for the shape of a flow or of a node, and none of marks of deletion if the run is
not strict. -/
theorem Flow.lint_shaped (r : Registry) (o : Options) (x : Flow) (v : Value) (hx : x.IsReadFrom v) :
    x.saveByRecords = .valid x.toStored ∧
      ∃ report, lint r o x.storedWire = .ok report ∧ (∀ i ∈ report, i.code ∉ unshapedCodes) ∧
        (o.strict = false → ∀ i ∈ report, i.code ≠ .invalidOutputDeleted) := by
  have hids : x.kept.HasIds := hx.hasIds
  obtain ⟨report, hreport⟩ := StoredFlow.exists_lint (r := r) (o := o) x.kept
  have hmarks := StoredFlow.only_marks hids hreport
  have hshaped : Lacks unshapedCodes report := by
    rw [lint_eq_snapshot x.kept.hasLists_write] at hreport
    obtain ⟨-, rfl⟩ := Snapshot.lint_eq_ok_iff.mp hreport
    rw [Snapshot.lacks_issues, StoredFlow.write, FlowOf.flowSnapshot_write]
    exact forall_mem_readIndexed_map fun k n hn => StoredNode.isShaped_write (hids n hn) k
  refine ⟨saveByRecords_eq hids, report, x.lint_storedWire.trans hreport, hshaped,
    fun hlax i hi hcode => ?_⟩
  have hmem : i ∈ report.only .invalidOutputDeleted := List.mem_filter.mpr ⟨hi, decide_eq_true hcode⟩
  rw [hmarks, hlax] at hmem
  exact List.not_mem_nil hmem

theorem mixedFlow_shaped :
    ∃ x report, Flow.IsReadFrom x mixedFlow ∧ lint .builtin {} x.storedWire = .ok report ∧
      (∀ i ∈ report, i.code ∉ unshapedCodes) ∧ ∀ i ∈ report, i.code ≠ .invalidOutputDeleted := by
  have hread : (EditorFlow.read mixedFlow).toOption.isSome = true := by decide +kernel
  cases h : EditorFlow.read mixedFlow with
  | valid f =>
    obtain ⟨-, report, hreport, hshaped, hmarks⟩ := Flow.lint_shaped .builtin {} (.editor f) mixedFlow h
    exact ⟨.editor f, report, h, hreport, hshaped, hmarks rfl⟩
  | faulty ps =>
    rw [h] at hread
    cases hread

end Read

end WorkflowCheck
