import WorkflowCheck.Proofs.Lint.Blocks

/-!
# Required inputs

A rule looks a required input up among those of the node, takes the first one, and asks an index of handles
without suffixes whether an edge leads into it.  `IsJudged` says when each of the three outcomes is right by
the raw inputs of the node and a scan of the raw edges, with no index and no search.  Exactly one of them is
right for each required input, and the rule finds it (`inputVerdict_eq_iff`), so the block of a node says of its
required inputs what is right of them, in the order of the contract (`requiredInputs_judged`).
-/

namespace WorkflowCheck

/-! ### Verdicts -/

/-- What there is to say of an input that a contract requires. -/
inductive InputVerdict where
  /-- The node has no such input. -/
  | missing
  /-- The input has no value, and no edge leads into it. -/
  | empty
  | fine
  deriving DecidableEq, Repr

/-- The issues of a verdict on an input of a node. -/
def InputVerdict.issues (id required : String) : InputVerdict → List Issue
  | .missing =>
    [.ofField .error .missingRequiredInput id .input required
      ("Node " ++ id ++ " is missing required input: " ++ required)]
  | .empty =>
    [.ofField .error .requiredInputEmpty id .input required
      ("Node " ++ id ++ " required input " ++ required ++ " has no value and no incoming connection")]
  | .fine => []

/-- A raw edge leads into an input of a node: it has a handle that is not empty and, without one suffix, is
the input or has it as its second segment. -/
def LeadsInto (e : Value) (id field : String) : Prop :=
  e.Names "target" id ∧ ∃ handle, e.Names "targetHandle" handle ∧
    ∃ inner, StripsTo handle inner ∧ HandleNames inner field

/-- When a verdict is right on an input that is required of a node with an id. -/
def IsJudged (strict : Bool) (flow n : Value) (id required : String) : InputVerdict → Prop
  | .missing => ∀ i ∈ nodeInputs n, ¬ i.Names "id" required
  | .empty => ∃ i, FirstInput n required i ∧ Unset strict (i.field "value") ∧
      ∀ e ∈ flowEdges flow, ¬ LeadsInto e id required
  | .fine => ∃ i, FirstInput n required i ∧
      (¬ Unset strict (i.field "value") ∨ ∃ e ∈ flowEdges flow, LeadsInto e id required)

/-- The verdict that the rule comes to. -/
def inputVerdict (o : Options) (s : Snapshot) (n : RawNode) (id required : String) : InputVerdict :=
  match n.findInput? required with
  | none => .missing
  | some i => if isUnset o i && !isConnected s id required then .empty else .fine

/-! ### The verdict of the rule -/

section Rule

variable {r : Registry} {o : Options} {s : Snapshot} {n : RawNode} {id required : String} {c : Contract}

theorem inputVerdict_eq_missing_iff :
    inputVerdict o s n id required = .missing ↔ n.findInput? required = none := by
  rw [inputVerdict]
  cases n.findInput? required with
  | none => simp
  | some i =>
    dsimp only
    split_ifs <;> simp

theorem inputVerdict_eq_empty_iff :
    inputVerdict o s n id required = .empty ↔
      ∃ i, n.findInput? required = some i ∧ isUnset o i = true ∧ isConnected s id required = false := by
  rw [inputVerdict]
  cases n.findInput? required with
  | none => simp
  | some i => cases hunset : isUnset o i <;> cases isConnected s id required <;> simp [hunset]

theorem inputVerdict_eq_fine_iff :
    inputVerdict o s n id required = .fine ↔
      ∃ i, n.findInput? required = some i ∧ (isUnset o i = false ∨ isConnected s id required = true) := by
  rw [inputVerdict]
  cases n.findInput? required with
  | none => simp
  | some i => cases hunset : isUnset o i <;> cases isConnected s id required <;> simp [hunset]

theorem requiredIssues_eq :
    requiredIssues o s n id required = (inputVerdict o s n id required).issues id required := by
  rw [requiredIssues, inputVerdict]
  cases n.findInput? required with
  | none => rfl
  | some i =>
    dsimp only
    split_ifs <;> rfl

/-- The codes of what is said of required inputs. -/
def requiredCodes : List IssueCode :=
  [.missingRequiredInput, .requiredInputEmpty]

open Report (among among_append among_eq_self among_eq_nil)

theorem among_inputsIssues :
    among requiredCodes (inputsIssues o s n id c) =
      c.requiredInputs.flatMap fun required => (inputVerdict o s n id required).issues id required := by
  have hown : ∀ i ∈ c.requiredInputs.flatMap (requiredIssues o s n id), i.Bears requiredCodes := by
    intro i hi
    obtain ⟨required, -, hi⟩ := List.mem_flatMap.mp hi
    exact (requiredIssues_isOnField i hi).bears
  have hother : ∀ i ∈ n.inputs.flatMap (inputIssues (allowedInputs n c) id),
      i.Bears [.missingInputId, .unknownInput] := by
    intro i hi
    obtain ⟨input, -, hi⟩ := List.mem_flatMap.mp hi
    exact inputIssues_bears i hi
  rw [inputsIssues, among_append, among_eq_self hown, among_eq_nil hother (by decide), List.append_nil]
  exact List.flatMap_congr fun required _ => requiredIssues_eq

theorem among_formIssues {repeated : Bool} (hc : r.checkedContract? n = some c) :
    among requiredCodes (formIssues r o s repeated n id) =
      c.requiredInputs.flatMap fun required => (inputVerdict o s n id required).issues id required := by
  rw [formIssues, hc]
  dsimp only
  rw [among_append, among_append, among_append, among_append, among_inputsIssues,
    among_eq_nil repeatedIssues_bears (by decide),
    among_eq_nil (fun i hi => (typeIssues_isOn i hi).bears) (by decide),
    among_eq_nil (fun i hi => (positionIssues_isOn i hi).bears) (by decide),
    among_eq_nil outputsIssues_bears (by decide)]
  simp only [List.nil_append, List.append_nil]

/-- What the issues of a node say of required inputs. -/
theorem among_nodeIssues {repeated : Bool} (hid : n.id = some id) (hc : r.checkedContract? n = some c) :
    among requiredCodes (nodeIssues r o s repeated n) =
      c.requiredInputs.flatMap fun required => (inputVerdict o s n id required).issues id required := by
  rw [among_nodeIssues_of_id hid (by decide) (by decide)]
  exact among_formIssues hc

end Rule

/-! ### The verdict that is right -/

section Raw

variable {r : Registry} {o : Options} {flow n : Value} {k : Nat} {id required : String} {c : Contract}

theorem exists_leadsInto_iff : (∃ e ∈ flowEdges flow, LeadsInto e id required) ↔ IsFed flow id required := by
  simp only [LeadsInto, IsFed, ← fieldOfHandle_eq_iff, exists_eq_left']

theorem findInput?_eq_none_iff :
    (RawNode.ofValue k n).findInput? required = none ↔ ∀ i ∈ nodeInputs n, ¬ i.Names "id" required := by
  show (readIndexed RawInput.ofValue (nodeInputs n)).find? (fun i => i.id == some required) = none ↔ _
  rw [List.find?_eq_none]
  refine forall_mem_readIndexed fun j i _ => not_congr ?_
  rw [beq_iff_eq]
  exact Value.filledText?_field_iff

/-- The rule comes to the verdict that is right. -/
theorem inputVerdict_eq_iff {verdict : InputVerdict} :
    inputVerdict o (flowSnapshot flow) (RawNode.ofValue k n) id required = verdict ↔
      IsJudged o.strict flow n id required verdict := by
  have hunset : ∀ j i, isUnset o (RawInput.ofValue j i) = true ↔ Unset o.strict (i.field "value") := by
    intro j i
    rw [← not_iff_not, ← @isUnset_iff o j i, Bool.not_eq_true]
  have hfed : isConnected (flowSnapshot flow) id required = true ↔
      ∃ e ∈ flowEdges flow, LeadsInto e id required := isConnected_iff.trans exists_leadsInto_iff.symm
  cases verdict with
  | missing => exact inputVerdict_eq_missing_iff.trans findInput?_eq_none_iff
  | empty =>
    refine inputVerdict_eq_empty_iff.trans (exists_findInput?_iff fun j i => and_congr (hunset j i) ?_)
    rw [Bool.eq_false_iff, ne_eq, hfed]
    simp only [not_exists, not_and]
  | fine =>
    refine inputVerdict_eq_fine_iff.trans (exists_findInput?_iff fun j i => or_congr isUnset_iff hfed)

end Raw

/-- **Required inputs are judged exactly.**  Of a node with an id, a type and a known contract each required input is
missing, empty or fine, just one of these, as its inputs and the edges of the flow say.  Wherever the run
does not end at the node, its block says that of them, in the order of the contract, and nothing else with
those codes; and a report has the block in it. -/
theorem requiredInputs_judged (r : Registry) (o : Options) (flow n : Value) (k : Nat) (id : String)
    (c : Contract) (hmem : (flowNodes flow)[k]? = some n) (hid : n.Names "id" id)
    (htyped : n.field "type" ≠ .str "") (hc : HasContract r n c) :
    ∃ verdict : String → InputVerdict,
      (∀ required v, verdict required = v ↔ IsJudged o.strict flow n id required v) ∧
      (∀ block, (nodeBlocks r o flow)[k]? = some (.ok block) →
        Report.among requiredCodes block =
          c.requiredInputs.flatMap fun required => (verdict required).issues id required) ∧
      ∀ report, HasLists flow → lint r o flow = .ok report →
        ∃ block, (nodeBlocks r o flow)[k]? = some (.ok block) ∧ block <:+: report := by
  refine ⟨inputVerdict o (flowSnapshot flow) (RawNode.ofValue k n) id,
    fun required v => inputVerdict_eq_iff, fun block hblock => ?block, fun report hlists hreport => ?report⟩
  case block =>
    obtain ⟨repeated, hat, -⟩ := getElem?_nodeBlocks (r := r) (o := o) hmem
    rw [hat, nodeBlock] at hblock
    cases herror : (flowSnapshot flow).nodeError? r o (RawNode.ofValue k n) with
    | some e =>
      rw [herror] at hblock
      cases hblock
    | none =>
      rw [herror] at hblock
      cases hblock
      exact among_nodeIssues (Value.filledText?_field_iff.mpr hid)
        (Registry.checkedContract?_eq_some_iff.mpr
          ⟨(isVoid_type_iff hc).mpr htyped, contractOf?_eq_some_iff.mpr hc⟩)
  case report =>
    exact exists_block_infix hlists (List.getElem?_eq_some_iff.mp hmem).1 hreport

/-- Of a model without edges the prompt is reported as empty, and nothing is said of its other input. -/
theorem modelNode_judged :
    ∃ block report, (nodeBlocks .builtin {} (wiredNodes [modelNode] []))[0]? = some (.ok block) ∧
      Report.among requiredCodes block = InputVerdict.empty.issues "model" "prompt" ∧
      lint .builtin {} (wiredNodes [modelNode] []) = .ok report ∧ block <:+: report := by
  obtain ⟨verdict, hverdict, hjudged, hblock⟩ := requiredInputs_judged .builtin {} (wiredNodes [modelNode] [])
    modelNode 0 "model" _ rfl ⟨rfl, by decide⟩ (fun h => absurd (Value.str.inj h) (by decide))
    ⟨"ai_model_node", rfl, rfl⟩
  have hmodel : verdict "model" = .fine := by
    refine (hverdict "model" .fine).mpr ⟨_, ⟨[], [_], rfl, ⟨rfl, by decide⟩, ?_⟩, Or.inl ?_⟩
    · exact List.forall_mem_nil _
    · exact fun hunset => absurd (unset_iff.mpr hunset) (by decide)
  have hprompt : verdict "prompt" = .empty := by
    refine (hverdict "prompt" .empty).mpr ⟨_, ⟨[_], [], rfl, ⟨rfl, by decide⟩, ?_⟩, .null, ?_⟩
    · intro j hj hnamed
      cases List.mem_singleton.mp hj
      exact absurd (Value.str.inj hnamed.1) (by decide)
    · exact List.forall_mem_nil _
  obtain ⟨report, hreport⟩ : ∃ report, lint .builtin {} (wiredNodes [modelNode] []) = .ok report :=
    exists_report_of_isSome (by decide +kernel)
  obtain ⟨block, hat, hinfix⟩ := hblock report ⟨rfl, rfl, rfl⟩ hreport
  refine ⟨block, report, hat, (hjudged block hat).trans ?_, hreport, hinfix⟩
  show (verdict "model").issues "model" "model" ++ ((verdict "prompt").issues "model" "prompt" ++ []) = _
  rw [hmodel, hprompt]
  rfl

end WorkflowCheck
