import Mathlib.Data.List.Basic
import WorkflowCheck.Lint

/-!
# When a rule reports no error

Each rule gives a list of issues, of which some are errors and some are warnings.  `Clean` says that a
list holds no error, and for each rule one lemma says of a snapshot when its issues are clean.
-/

namespace WorkflowCheck

/-! ### Lists of issues without an error -/

/-- No issue of the list is an error. -/
def Clean (issues : List Issue) : Prop :=
  ∀ i ∈ issues, i.isError = false

theorem hasErrors_eq_false_iff {report : Report} : report.hasErrors = false ↔ Clean report := by
  rw [Report.hasErrors, List.any_eq_false]
  exact forall₂_congr fun i _ => by rw [Bool.not_eq_true]

@[simp] theorem clean_nil : Clean [] := by
  intro i hi
  exact absurd hi List.not_mem_nil

@[simp] theorem clean_append {xs ys : List Issue} : Clean (xs ++ ys) ↔ Clean xs ∧ Clean ys :=
  List.forall_mem_append

@[simp] theorem clean_singleton {i : Issue} : Clean [i] ↔ i.isError = false :=
  List.forall_mem_singleton

@[simp] theorem clean_flatMap {α : Type} {xs : List α} {f : α → List Issue} :
    Clean (xs.flatMap f) ↔ ∀ x ∈ xs, Clean (f x) := by
  unfold Clean
  constructor
  · intro h x hx i hi
    exact h i (List.mem_flatMap.mpr ⟨x, hx, hi⟩)
  · intro h i hi
    obtain ⟨x, hx, hi⟩ := List.mem_flatMap.mp hi
    exact h x hx i hi

/-- A rule that reports one error under a condition. -/
theorem clean_ite_iff {p : Prop} [Decidable p] {i : Issue} (h : i.severity = .error) :
    Clean (if p then [i] else []) ↔ ¬ p := by
  split_ifs with hp
  · rw [clean_singleton, Issue.isError, h]
    exact iff_of_false (by decide) (not_not_intro hp)
  · exact iff_of_true clean_nil hp

/-- Warnings are no errors. -/
theorem clean_of_severity {issues : List Issue} (h : ∀ i ∈ issues, i.severity = .warning) :
    Clean issues := by
  intro i hi
  rw [Issue.isError, h i hi]
  rfl

theorem not_clean_singleton {i : Issue} (h : i.severity = .error) : ¬ Clean [i] := by
  rw [clean_singleton, Issue.isError, h]
  decide

theorem clean_warning {i : Issue} (h : i.severity = .warning) : Clean [i] := by
  rw [clean_singleton, Issue.isError, h]
  rfl

/-! ### Nodes -/

section Nodes

variable {r : Registry} {o : Options} {s : Snapshot} {n : RawNode} {id : String} {c : Contract}

theorem clean_typeIssues :
    Clean (typeIssues r n id) ↔ n.type.isVoid = false ∧ ∃ c, r.contractOf? n = some c := by
  rw [typeIssues, hasUnknownType]
  cases hvoid : n.type.isVoid with
  | true => exact iff_of_false (not_clean_singleton rfl) fun h => nomatch h.1
  | false =>
    rw [if_neg Bool.false_ne_true, clean_ite_iff rfl]
    cases r.contractOf? n <;> simp

theorem isNull_position_of_coordinates? {here : Double × Double} (h : n.coordinates? = some here) :
    n.position.isNull = false := by
  rw [RawNode.coordinates?, RawNode.place] at h
  cases hp : n.position with
  | null =>
    rw [hp] at h
    cases h
  | _ => rfl

theorem clean_positionIssues : Clean (positionIssues n id) ↔ ∃ here, n.coordinates? = some here := by
  rw [positionIssues]
  cases hn : n.coordinates? with
  | none =>
    refine iff_of_false ?_ fun h => nomatch h
    split_ifs
    · exact not_clean_singleton rfl
    · exact not_clean_singleton rfl
    · simp_all
  | some here =>
    rw [isNull_position_of_coordinates? hn]
    exact iff_of_true clean_nil ⟨here, rfl⟩

theorem clean_requiredIssues {required : String} :
    Clean (requiredIssues o s n id required) ↔
      ∃ i, n.findInput? required = some i ∧
        (isUnset o i = false ∨ isConnected s id required = true) := by
  rw [requiredIssues]
  cases n.findInput? required with
  | none => exact iff_of_false (not_clean_singleton rfl) fun h => nomatch h
  | some i =>
    simp only [Option.some.injEq, exists_eq_left']
    rw [clean_ite_iff rfl]
    cases isUnset o i <;> cases isConnected s id required <;> simp

theorem clean_inputIssues {allowed : List String} {i : RawInput} :
    Clean (inputIssues allowed id i) ↔ ∃ field, i.id = some field := by
  rw [inputIssues]
  cases i.id with
  | none => exact iff_of_false (not_clean_singleton rfl) fun h => nomatch h
  | some field =>
    refine iff_of_true ?_ ⟨field, rfl⟩
    dsimp only
    split_ifs
    · exact clean_nil
    · exact clean_warning rfl

theorem clean_outputIssues {out : RawOutput} :
    Clean (outputIssues o id c out) ↔
      (∃ field, out.id = some field) ∧
        ((o.strict = true ∨ out.deleted.isSome = true) → isTruthValue out.deleted = true) := by
  rw [outputIssues, clean_append, clean_append, clean_ite_iff rfl, clean_ite_iff rfl]
  have hid : ¬ out.id.isNone = true ↔ ∃ field, out.id = some field := by
    cases out.id <;> simp
  have hdeleted : ¬ ((o.strict || out.deleted.isSome) && !isTruthValue out.deleted) = true ↔
      ((o.strict = true ∨ out.deleted.isSome = true) → isTruthValue out.deleted = true) := by
    cases o.strict <;> cases out.deleted.isSome <;> cases isTruthValue out.deleted <;> simp
  rw [hid, hdeleted]
  refine and_iff_left ?_
  cases out.id with
  | none => exact clean_nil
  | some field =>
    dsimp only
    split_ifs
    · exact clean_nil
    · exact clean_warning rfl

theorem clean_versionIssues : Clean (versionIssues o n id) ↔ hasUnknownVersion n = false := by
  rw [versionIssues, hasUnknownVersion]
  cases n.version.getD .null with
  | null =>
    refine iff_of_true ?_ rfl
    dsimp only
    split_ifs
    · exact clean_warning rfl
    · exact clean_nil
  | str raw =>
    simp only [Value.text?, Option.bind_some, Value.isNull, Bool.not_false, Bool.true_and]
    cases Version.ofTag? raw with
    | none => exact iff_of_false (not_clean_singleton rfl) Bool.noConfusion
    | some version =>
      refine iff_of_true ?_ rfl
      dsimp only
      split_ifs
      · exact clean_warning rfl
      · exact clean_nil
  | _ => exact iff_of_false (not_clean_singleton rfl) Bool.noConfusion

theorem clean_overlapIssues : Clean (overlapIssues s n id) := by
  rw [overlapIssues]
  cases n.coordinates? with
  | none => exact clean_nil
  | some here =>
    refine clean_of_severity fun i hi => ?_
    obtain ⟨other, -, hi⟩ := List.mem_filterMap.mp hi
    cases hother : other.coordinates? with
    | none =>
      rw [hother] at hi
      cases hi
    | some there =>
      simp only [hother] at hi
      split_ifs at hi
      cases hi
      rfl

/-- What the rules ask of a node with an id and a contract, apart from the ids of other nodes. -/
structure NodePasses (o : Options) (s : Snapshot) (n : RawNode) (id : String) (c : Contract) : Prop where
  typed : n.type.isVoid = false
  placed : ∃ here, n.coordinates? = some here
  required : ∀ field ∈ c.requiredInputs, ∃ i, n.findInput? field = some i ∧
    (isUnset o i = false ∨ isConnected s id field = true)
  inputs : ∀ i ∈ n.inputs, ∃ field, i.id = some field
  outputs : ∀ out ∈ n.outputs, (∃ field, out.id = some field) ∧
    ((o.strict = true ∨ out.deleted.isSome = true) → isTruthValue out.deleted = true)
  version : hasUnknownVersion n = false

/-- The rules pass a node if it has an id and a contract and is right by them. -/
def Passes (r : Registry) (o : Options) (s : Snapshot) (n : RawNode) : Prop :=
  ∃ id c, n.id = some id ∧ r.contractOf? n = some c ∧ NodePasses o s n id c

theorem clean_inputsIssues :
    Clean (inputsIssues o s n id c) ↔
      (∀ field ∈ c.requiredInputs, ∃ i, n.findInput? field = some i ∧
        (isUnset o i = false ∨ isConnected s id field = true)) ∧
      ∀ i ∈ n.inputs, ∃ field, i.id = some field := by
  rw [inputsIssues, clean_append, clean_flatMap, clean_flatMap]
  simp only [clean_requiredIssues, clean_inputIssues]

theorem clean_nodeIssues {repeated : Bool} :
    Clean (nodeIssues r o s repeated n) ↔ repeated = false ∧ Passes r o s n := by
  rw [nodeIssues, Passes]
  cases hid : n.id with
  | none =>
    refine iff_of_false (not_clean_singleton rfl) ?_
    rintro ⟨-, id, c, hsome, -⟩
    cases hsome
  | some id =>
    have hoverlap : Clean (if o.checksWholeFlow = true then overlapIssues s n id else []) := by
      split_ifs
      · exact clean_overlapIssues
      · exact clean_nil
    have hunrepeated : Clean (if repeated = true then
        [.ofElement .error .duplicateNodeId .node id ("Duplicate node ID: " ++ id)] else []) ↔
        repeated = false := by
      rw [clean_ite_iff rfl, Bool.not_eq_true]
    simp only [clean_append, hunrepeated, clean_typeIssues, clean_positionIssues, clean_versionIssues,
      hoverlap, and_true]
    by_cases hvoid : n.type.isVoid = true
    · refine iff_of_false ?_ ?_
      · rintro ⟨⟨⟨⟨-, htyped, -⟩, -⟩, -⟩, -⟩
        exact Bool.false_ne_true (htyped.symm.trans hvoid)
      · rintro ⟨-, id', c, -, -, hpasses⟩
        exact Bool.false_ne_true (hpasses.typed.symm.trans hvoid)
    rw [Registry.checkedContract?_of_not_isVoid (Bool.eq_false_iff.mpr hvoid)]
    cases hc : r.contractOf? n with
    | none =>
      refine iff_of_false ?_ ?_
      · rintro ⟨⟨⟨⟨-, -, c, hsome⟩, -⟩, -⟩, -⟩
        cases hsome
      · rintro ⟨-, id', c, -, hsome, -⟩
        cases hsome
    | some c =>
      simp only [clean_append, clean_inputsIssues, clean_flatMap, clean_outputIssues]
      constructor
      · rintro ⟨⟨⟨⟨hrepeated, htyped, -⟩, hplaced⟩, ⟨hrequired, hinputs⟩, houtputs⟩, hversion⟩
        exact ⟨hrepeated, id, c, rfl, rfl, htyped, hplaced, hrequired, hinputs, houtputs, hversion⟩
      · rintro ⟨hrepeated, id', c', hid', hc', hpasses⟩
        cases hid'
        cases hc'
        exact ⟨⟨⟨⟨hrepeated, hpasses.typed, c, rfl⟩, hpasses.placed⟩,
          ⟨hpasses.required, hpasses.inputs⟩, hpasses.outputs⟩, hpasses.version⟩

/-- The nodes of a list are clean when each of them passes and no id comes twice. -/
theorem clean_nodesIssues :
    ∀ (seen : List String) (ns : List RawNode),
      Clean (nodesIssues r o s seen ns) ↔
        (∀ n ∈ ns, Passes r o s n) ∧ (ns.Pairwise fun m n => m.id ≠ n.id) ∧
          ∀ n ∈ ns, ∀ id, n.id = some id → id ∉ seen
  | seen, [] => by simp [nodesIssues]
  | seen, n :: ns => by
    rw [nodesIssues, clean_append, clean_nodeIssues, clean_nodesIssues _ ns, List.forall_mem_cons,
      List.forall_mem_cons, List.pairwise_cons]
    have hrepeated : n.id.any (· ∈ seen) = false ↔ ∀ id, n.id = some id → id ∉ seen := by
      cases n.id <;> simp
    rw [hrepeated]
    constructor
    · rintro ⟨⟨hnew, hn⟩, hns, hdistinct, hseen⟩
      refine ⟨⟨hn, hns⟩, ⟨?_, hdistinct⟩, hnew, ?_⟩
      · intro m hm heq
        obtain ⟨id, c, hid, -⟩ := hn
        exact hseen m hm id (heq ▸ hid) (by simp [hid])
      · intro m hm id hid hmem
        exact hseen m hm id hid (List.mem_append_right _ hmem)
    · rintro ⟨⟨hn, hns⟩, ⟨hfirst, hdistinct⟩, hnew, hseen⟩
      refine ⟨⟨hnew, hn⟩, hns, hdistinct, ?_⟩
      intro m hm id hid hmem
      rcases List.mem_append.mp hmem with hmem | hmem
      · exact hfirst m hm ((Option.mem_toList.mp hmem).trans hid.symm)
      · exact hseen m hm id hid hmem

end Nodes

/-! ### Edges -/

section Edges

variable {r : Registry} {s : Snapshot} {e : RawEdge} {code : IssueCode} {name : String}

theorem clean_absentIssues {part : Option String} :
    Clean (absentIssues e part name code) ↔ ∃ text, part = some text := by
  rw [absentIssues, clean_ite_iff rfl]
  cases part <;> simp

theorem clean_danglingIssues {ending : Option String} :
    Clean (danglingIssues s e ending name code) ↔
      ∀ id, ending = some id → ∃ n, s.node? id = some n := by
  unfold danglingIssues
  cases ending with
  | none => exact iff_of_true clean_nil fun id hid => nomatch hid
  | some id =>
    simp only [Option.some.injEq, forall_eq']
    cases s.node? id with
    | none => exact iff_of_false (not_clean_singleton rfl) fun h => nomatch h
    | some n => exact iff_of_true clean_nil ⟨n, rfl⟩

theorem clean_handleIssues {ending handle : Option String} {handles : RawNode → List String} :
    Clean (handleIssues s e ending handle handles name code) ↔
      ∀ id field n, ending = some id → handle = some field → s.node? id = some n →
        fieldOfHandle field ∈ handles n := by
  unfold handleIssues
  cases ending with
  | none => exact iff_of_true clean_nil fun id field n hid => nomatch hid
  | some id =>
    cases handle with
    | none => exact iff_of_true clean_nil fun id field n hid hfield => nomatch hfield
    | some field =>
      cases hn : s.node? id with
      | none =>
        refine iff_of_true ?_ ?_
        · simp only [hn, clean_nil]
        · rintro _ _ n ⟨⟩ - hsome
          rw [hn] at hsome
          cases hsome
      | some n =>
        simp only [hn]
        split_ifs with hmem
        · refine iff_of_true clean_nil ?_
          rintro _ _ m ⟨⟩ ⟨⟩ hsome
          cases hn.symm.trans hsome
          exact hmem
        · exact iff_of_false (not_clean_singleton rfl) fun hall => hmem (hall id field n rfl rfl hn)

theorem clean_edgeIssues :
    Clean (edgeIssues r s e) ↔
      ∃ source sourceHandle target targetHandle,
        e.source = some source ∧ e.sourceHandle = some sourceHandle ∧ e.target = some target ∧
          e.targetHandle = some targetHandle ∧
          (∃ n, s.node? source = some n ∧ fieldOfHandle sourceHandle ∈ outputHandles r n) ∧
          ∃ n, s.node? target = some n ∧ fieldOfHandle targetHandle ∈ inputHandles r n := by
  simp only [edgeIssues, clean_append, clean_absentIssues, clean_danglingIssues, clean_handleIssues]
  constructor
  · rintro ⟨⟨⟨⟨⟨⟨⟨⟨source, hsource⟩, sourceHandle, hsourceHandle⟩, target, htarget⟩, targetHandle,
      htargetHandle⟩, hleaves⟩, henters⟩, houtput⟩, hinput⟩
    obtain ⟨m, hm⟩ := hleaves source hsource
    obtain ⟨n, hn⟩ := henters target htarget
    exact ⟨source, sourceHandle, target, targetHandle, hsource, hsourceHandle, htarget, htargetHandle,
      ⟨m, hm, houtput _ _ _ hsource hsourceHandle hm⟩, n, hn, hinput _ _ _ htarget htargetHandle hn⟩
  · rintro ⟨source, sourceHandle, target, targetHandle, hsource, hsourceHandle, htarget, htargetHandle,
      ⟨m, hm, houtput⟩, n, hn, hinput⟩
    rw [hsource, hsourceHandle, htarget, htargetHandle]
    refine ⟨⟨⟨⟨⟨⟨⟨⟨_, rfl⟩, _, rfl⟩, _, rfl⟩, _, rfl⟩, ?_⟩, ?_⟩, ?_⟩, ?_⟩
    · rintro _ ⟨⟩
      exact ⟨m, hm⟩
    · rintro _ ⟨⟩
      exact ⟨n, hn⟩
    · rintro _ _ m' ⟨⟩ ⟨⟩ hm'
      cases hm.symm.trans hm'
      exact houtput
    · rintro _ _ n' ⟨⟩ ⟨⟩ hn'
      cases hn.symm.trans hn'
      exact hinput

end Edges

/-! ### The graph and the whole flow -/

section Whole

variable {r : Registry} {o : Options} {s : Snapshot}

theorem clean_isolationIssues : Clean (isolationIssues s) := by
  rw [isolationIssues]
  split_ifs
  · exact clean_nil
  · refine clean_of_severity fun i hi => ?_
    obtain ⟨id, -, rfl⟩ := List.mem_map.mp hi
    rfl

theorem clean_cycleIssues : Clean (cycleIssues s) ↔ cycleIssues s = [] := by
  constructor
  · intro h
    rw [List.eq_nil_iff_forall_not_mem]
    intro i hi
    obtain ⟨path, -, rfl⟩ := List.mem_map.mp hi
    exact absurd (h _ hi) Bool.noConfusion
  · intro h
    rw [h]
    exact clean_nil

/-- The issues of a flow as a whole are clean when its nodes, its edges and its graph are. -/
theorem Snapshot.clean_issues (hmode : o.mode = .flow) :
    Clean (s.issues r o) ↔
      ((∀ n ∈ s.nodes, Passes r o s n) ∧ s.nodes.Pairwise fun m n => m.id ≠ n.id) ∧
        (∀ e ∈ s.edges, Clean (edgeIssues r s e)) ∧ cycleIssues s = [] := by
  have hflow : o.checksWholeFlow = true := by
    rw [Options.checksWholeFlow, hmode]
    rfl
  rw [issues, if_pos hflow, graphIssues, clean_append, clean_append, clean_append, clean_nodesIssues,
    clean_flatMap, clean_cycleIssues]
  simp only [List.not_mem_nil, not_false_eq_true, implies_true, and_true, clean_isolationIssues,
    true_and]

end Whole

end WorkflowCheck
