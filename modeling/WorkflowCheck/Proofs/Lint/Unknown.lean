import Mathlib.Data.Finset.Disjoint
import Mathlib.Data.Finset.Lattice.Lemmas
import WorkflowCheck.Proofs.Lint.Reported
import WorkflowCheck.Registry.Builtin

/-!
# Fields that are unknown, and fields that edges may use

Two rules look at the fields of a node.  The rule for nodes warns of those that the contract does not offer,
and the rule for edges accepts what the node has as well as what the contract offers.  So what edges may use
falls into two parts that have nothing in common, the fields that the node is warned about
(`unknownInputs_eq`, `unknownOutputs_eq`) and those on offer (`handles_split`).  What is on offer among
inputs includes the names that the value of another input lists.
-/

namespace WorkflowCheck

open Report (only only_append only_eq_among only_eq_nil only_flatMap)

/-! ### Fields that are named with a code -/

/-- The fields that the issues of one code name, in order. -/
def Report.fieldsOf (code : IssueCode) (report : Report) : List String :=
  (only code report).filterMap (·.fieldId)

open Report (fieldsOf)

section Fields

variable {code : IssueCode} {codes : List IssueCode} {xs ys : Report}

theorem fieldsOf_append : fieldsOf code (xs ++ ys) = fieldsOf code xs ++ fieldsOf code ys := by
  unfold fieldsOf
  rw [only_append, List.filterMap_append]

theorem fieldsOf_eq_nil (h : ∀ i ∈ xs, i.Bears codes) (hcode : code ∉ codes) : fieldsOf code xs = [] := by
  unfold fieldsOf
  rw [only_eq_nil h hcode, List.filterMap_nil]

/-- If each element names its own field unless that is on offer, the fields are those not on offer. -/
theorem fieldsOf_flatMap {α : Type} {f : α → List Issue} {field : α → Option String} {offered : List String}
    (h : ∀ a, fieldsOf code (f a) = (field a).toList.filter (· ∉ offered)) (as : List α) :
    fieldsOf code (as.flatMap f) = (as.filterMap field).filter (· ∉ offered) := by
  induction as with
  | nil => rfl
  | cons a as ih =>
    rw [List.flatMap_cons, fieldsOf_append, h, ih, List.filterMap_cons]
    cases field a with
    | none => rfl
    | some name => rw [← List.filter_append, Option.toList_some, List.singleton_append]

/-- An issue about a field that is reported unless the field is on offer. -/
theorem fieldsOf_unless {offered : List String} {severity : Severity} {node field message : String}
    {side : FieldSide} :
    fieldsOf code (if field ∈ offered then [] else [.ofField severity code node side field message]) =
      [field].filter (· ∉ offered) := by
  by_cases hfield : field ∈ offered
  · rw [if_pos hfield]
    simp [fieldsOf, only, hfield]
  · rw [if_neg hfield]
    simp [fieldsOf, only, hfield, Issue.ofField, Issue.ofElement]

end Fields

/-! ### Unknown fields -/

/-- The inputs that a node is warned about as unknown. -/
def unknownInputs (r : Registry) (o : Options) (s : Snapshot) (repeated : Bool) (n : RawNode) :
    List String :=
  fieldsOf .unknownInput (nodeIssues r o s repeated n)

/-- The outputs that a node is warned about as unknown. -/
def unknownOutputs (r : Registry) (o : Options) (s : Snapshot) (repeated : Bool) (n : RawNode) :
    List String :=
  fieldsOf .unknownOutput (nodeIssues r o s repeated n)

section Unknown

variable {r : Registry} {o : Options} {s : Snapshot} {repeated : Bool} {n : RawNode} {id : String}
  {c : Contract}

theorem fieldsOf_inputIssues (allowed : List String) (i : RawInput) :
    fieldsOf .unknownInput (inputIssues allowed id i) = i.id.toList.filter (· ∉ allowed) := by
  unfold inputIssues
  cases i.id with
  | none => rfl
  | some field => exact fieldsOf_unless

theorem fieldsOf_outputIssues (out : RawOutput) :
    fieldsOf .unknownOutput (outputIssues o id c out) = out.id.toList.filter (· ∉ c.outputs) := by
  obtain ⟨index, field, deleted⟩ := out
  unfold outputIssues
  cases field with
  | none =>
    dsimp only
    split_ifs <;> rfl
  | some field =>
    -- the issue of a mark of deletion names the field as well, with another code
    dsimp only
    rw [fieldsOf_append, fieldsOf_unless]
    split_ifs <;> rfl

/-- Of the issues of a node those of its fields are issues of its inputs and outputs. -/
theorem fieldsOf_nodeIssues {code : IssueCode} (hid : n.id = some id) (hc : r.checkedContract? n = some c)
    (hcode : code ∈ [.unknownInput, .unknownOutput]) :
    fieldsOf code (nodeIssues r o s repeated n) =
      fieldsOf code (n.inputs.flatMap (inputIssues (allowedInputs n c) id)) ++
        fieldsOf code (n.outputs.flatMap (outputIssues o id c)) := by
  have hnone : ∀ {xs : Report} (codes : List IssueCode), (∀ i ∈ xs, i.Bears codes) →
      (∀ code ∈ [.unknownInput, .unknownOutput], code ∉ codes) → fieldsOf code xs = [] :=
    fun codes hxs hcodes => fieldsOf_eq_nil hxs (hcodes code hcode)
  have hrequired : ∀ i ∈ c.requiredInputs.flatMap (requiredIssues o s n id),
      i.Bears [.missingRequiredInput, .requiredInputEmpty] := by
    intro i hi
    obtain ⟨required, -, hi⟩ := List.mem_flatMap.mp hi
    exact (requiredIssues_isOnField i hi).bears
  rw [nodeIssues_of_id hid, formIssues, hc]
  simp only [inputsIssues, fieldsOf_append]
  rw [hnone _ repeatedIssues_bears (by decide), hnone _ (fun i hi => (typeIssues_isOn i hi).bears) (by decide),
    hnone _ (fun i hi => (positionIssues_isOn i hi).bears) (by decide), hnone _ hrequired (by decide),
    hnone _ (fun i hi => (versionIssues_isOn i hi).bears) (by decide),
    hnone _ (forall_mem_ite_nil fun i hi => (overlapIssues_isOn i hi).bears) (by decide)]
  simp only [List.nil_append, List.append_nil]

/-- A node is warned about the inputs that its contract does not offer, as often as it has them. -/
theorem unknownInputs_eq (hid : n.id = some id) (hc : r.checkedContract? n = some c) :
    unknownInputs r o s repeated n = n.inputIds.filter (· ∉ allowedInputs n c) := by
  rw [unknownInputs, fieldsOf_nodeIssues hid hc (by decide), fieldsOf_flatMap (fieldsOf_inputIssues _),
    fieldsOf_eq_nil outputsIssues_bears (by decide), List.append_nil]
  rfl

/-- A node is warned about the outputs that its contract does not offer, as often as it has them. -/
theorem unknownOutputs_eq (hid : n.id = some id) (hc : r.checkedContract? n = some c) :
    unknownOutputs r o s repeated n = n.outputIds.filter (· ∉ c.outputs) := by
  have hinputs : ∀ i ∈ n.inputs.flatMap (inputIssues (allowedInputs n c) id),
      i.Bears [.missingInputId, .unknownInput] := by
    intro i hi
    obtain ⟨input, -, hi⟩ := List.mem_flatMap.mp hi
    exact inputIssues_bears i hi
  rw [unknownOutputs, fieldsOf_nodeIssues hid hc (by decide), fieldsOf_flatMap fieldsOf_outputIssues,
    fieldsOf_eq_nil hinputs (by decide), List.nil_append]
  rfl

end Unknown

/-! ### What edges may use -/

/-- What one has or is offered is what one has beyond the offer, and the offer. -/
theorem toFinset_append_split (own offered : List String) :
    (own ++ offered).toFinset = (own.filter (· ∉ offered)).toFinset ∪ offered.toFinset ∧
      Disjoint (own.filter (· ∉ offered)).toFinset offered.toFinset := by
  constructor
  · ext field
    by_cases hfield : field ∈ offered
    · simp [hfield]
    · simp [hfield]
  · rw [Finset.disjoint_left]
    intro field hown hoffered
    simp only [List.mem_toFinset, List.mem_filter, decide_eq_true_eq] at hown hoffered
    exact hown.2 hoffered

/-- **Unknown fields and accepted handles.**  The inputs by which edges may enter a node with a contract are
those that it is warned about as unknown and, apart from these, those that the contract declares or that the
node names in the parameter list of its contract.  The outputs by which edges may leave it are those that it
is warned about as unknown and, apart from these, those of the contract. -/
theorem handles_split (r : Registry) (o : Options) (s : Snapshot) (repeated : Bool) (n : RawNode)
    (id : String) (c : Contract) (hid : n.id = some id) (hc : r.checkedContract? n = some c) :
    ((inputHandles r n).toFinset = (unknownInputs r o s repeated n).toFinset ∪
          (c.declaredInputs.toFinset ∪ (dynamicInputs n c).toFinset) ∧
        Disjoint (unknownInputs r o s repeated n).toFinset
          (c.declaredInputs.toFinset ∪ (dynamicInputs n c).toFinset)) ∧
      (outputHandles r n).toFinset = (unknownOutputs r o s repeated n).toFinset ∪ c.outputs.toFinset ∧
        Disjoint (unknownOutputs r o s repeated n).toFinset c.outputs.toFinset := by
  have hknown := (Registry.checkedContract?_eq_some_iff.mp hc).2
  have hinputs : inputHandles r n = n.inputIds ++ allowedInputs n c := by rw [inputHandles, hknown]
  have houtputs : outputHandles r n = n.outputIds ++ c.outputs := by rw [outputHandles, hknown]
  have hallowed : c.declaredInputs.toFinset ∪ (dynamicInputs n c).toFinset = (allowedInputs n c).toFinset :=
    List.toFinset_append.symm
  rw [hinputs, houtputs, hallowed, unknownInputs_eq hid hc, unknownOutputs_eq hid hc]
  exact ⟨toFinset_append_split _ _, toFinset_append_split _ _⟩

/-- A node of code whose data names three inputs and holds two entries that name none.  It has one of the
three, another input twice, an input without an id, and an output of its own. -/
def codeNode : Value :=
  .record
    [("id", .str "code"), ("type", .str "code_node"),
      ("position", .record [("x", .int 0), ("y", .int 0)]),
      ("inputs", .arr
        [.record [("id", .str "input_data"), ("value", .arr
            [.str "rows", .record [("key", .str "label")], .arr [.str "first"], .int 3,
              .record [("name", .str "")]])],
          .record [("id", .str "rows")], .record [("id", .str "total")], .record [("id", .str "total")],
          .null]),
      ("outputs", .arr [.record [("id", .str "output_data")], .record [("id", .str "chart")]])]

theorem codeNode_split :
    ∃ c, Registry.builtin.checkedContract? (.ofValue 0 codeNode) = some c ∧
      dynamicInputs (.ofValue 0 codeNode) c = ["rows", "label", "first"] ∧
      unknownInputs .builtin {} (.ofValues [codeNode] []) false (.ofValue 0 codeNode) = ["total", "total"] ∧
      (inputHandles .builtin (.ofValue 0 codeNode)).toFinset =
        ["total", "total"].toFinset ∪
          (c.declaredInputs.toFinset ∪ ["rows", "label", "first"].toFinset) ∧
      (outputHandles .builtin (.ofValue 0 codeNode)).toFinset = ["chart"].toFinset ∪ c.outputs.toFinset := by
  have hnames : (Registry.builtin.checkedContract? (.ofValue 0 codeNode)).map
      (dynamicInputs (.ofValue 0 codeNode)) = some ["rows", "label", "first"] := by decide +kernel
  have hunknown : unknownInputs .builtin {} (.ofValues [codeNode] []) false (.ofValue 0 codeNode) =
      ["total", "total"] := by decide +kernel
  have hunknown' : unknownOutputs .builtin {} (.ofValues [codeNode] []) false (.ofValue 0 codeNode) =
      ["chart"] := by decide +kernel
  cases hc : Registry.builtin.checkedContract? (.ofValue 0 codeNode) with
  | none =>
    rw [hc] at hnames
    cases hnames
  | some c =>
    rw [hc] at hnames
    have hdynamic := Option.some.inj hnames
    obtain ⟨⟨hinputs, -⟩, houtputs, -⟩ := handles_split .builtin {} (.ofValues [codeNode] []) false
      (.ofValue 0 codeNode) "code" c rfl hc
    rw [hunknown, hdynamic] at hinputs
    rw [hunknown'] at houtputs
    exact ⟨c, rfl, hdynamic, hunknown, hinputs, houtputs⟩

end WorkflowCheck
