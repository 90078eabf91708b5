import WorkflowCheck.Proofs.Lint.Failure

/-!
# What each rule reports

The issues of a rule are about one element, or about one field of a node, and have one of a few codes.
One lemma a rule says which (`Issue.IsOn`, `Issue.IsOnField`).  So it is known of each rule what is left of
its issues in a report without some codes (`Report.without`) or of some alone (`Report.among`, `Report.only`),
all of them or none, and every issue of a run has the severity of its code (`severity_of_mem_lint`).
-/

namespace WorkflowCheck

/-! ### Forms of issues -/

/-- The codes of warnings; all others are those of errors. -/
def IssueCode.severity : IssueCode → Severity
  | .unknownInput | .unknownOutput | .missingNodeVersion | .prereleaseVersion
  | .nodePositionOverlap | .isolatedNode => .warning
  | _ => .error

namespace Issue

variable {i : Issue} {element : Element} {id field : Option String} {node : String} {side : FieldSide}
  {codes codes' : List IssueCode}

/-- The issue is about an element as a whole and has one of some codes, with the severity of that. -/
def IsOn (i : Issue) (element : Element) (id : Option String) (codes : List IssueCode) : Prop :=
  ∃ code ∈ codes, ∃ message, i = .ofElement code.severity code element id message

/-- The issue is about a field of a node and has one of some codes, with the severity of that. -/
def IsOnField (i : Issue) (node : String) (side : FieldSide) (field : Option String)
    (codes : List IssueCode) : Prop :=
  ∃ code ∈ codes, ∃ message, i = .ofField code.severity code node side field message

/-- The issue has one of some codes, and the severity of its code. -/
def Bears (i : Issue) (codes : List IssueCode) : Prop :=
  i.code ∈ codes ∧ i.severity = i.code.severity

theorem isOn_ofElement {severity : Severity} {code : IssueCode} (h : code ∈ codes ∧ code.severity = severity)
    (message : String) : (ofElement severity code element id message).IsOn element id codes :=
  ⟨code, h.1, message, by rw [h.2]⟩

theorem isOnField_ofField {severity : Severity} {code : IssueCode}
    (h : code ∈ codes ∧ code.severity = severity) (message : String) :
    (ofField severity code node side field message).IsOnField node side field codes :=
  ⟨code, h.1, message, by rw [h.2]⟩

theorem IsOn.mono (h : i.IsOn element id codes) (hsub : codes ⊆ codes') : i.IsOn element id codes' := by
  obtain ⟨code, hcode, hi⟩ := h
  exact ⟨code, hsub hcode, hi⟩

theorem IsOnField.mono (h : i.IsOnField node side field codes) (hsub : codes ⊆ codes') :
    i.IsOnField node side field codes' := by
  obtain ⟨code, hcode, hi⟩ := h
  exact ⟨code, hsub hcode, hi⟩

theorem IsOn.bears (h : i.IsOn element id codes) : i.Bears codes := by
  obtain ⟨code, hcode, message, rfl⟩ := h
  exact ⟨hcode, rfl⟩

theorem IsOnField.bears (h : i.IsOnField node side field codes) : i.Bears codes := by
  obtain ⟨code, hcode, message, rfl⟩ := h
  exact ⟨hcode, rfl⟩

theorem Bears.mono (h : i.Bears codes) (hsub : codes ⊆ codes') : i.Bears codes' :=
  ⟨hsub h.1, h.2⟩

end Issue

/-- What a rule reports under a condition. -/
theorem forall_mem_ite_nil {α : Type} {c : Prop} [Decidable c] {xs : List α} {P : α → Prop}
    (h : ∀ x ∈ xs, P x) : ∀ x ∈ (if c then xs else []), P x :=
  fun x hx => h x (List.mem_ite_nil_right.mp hx).2

/-! ### Reports without some codes, and of some codes alone -/

namespace Report

variable {code : IssueCode} {codes dropped : List IssueCode} {xs ys : Report}

/-- The report without the issues of some codes. -/
def without (codes : List IssueCode) (report : Report) : Report :=
  report.filter (·.code ∉ codes)

theorem without_append : without dropped (xs ++ ys) = without dropped xs ++ without dropped ys :=
  List.filter_append xs ys

theorem without_flatMap {α : Type} {as : List α} {f : α → List Issue} :
    without dropped (as.flatMap f) = as.flatMap fun a => without dropped (f a) :=
  List.filter_flatMap

/-- Nothing is left out of issues that have other codes. -/
theorem without_eq_self (h : ∀ i ∈ xs, i.Bears codes) (hkept : ∀ code ∈ codes, code ∉ dropped) :
    without dropped xs = xs :=
  List.filter_eq_self.mpr fun i hi => decide_eq_true (hkept i.code (h i hi).1)

/-- Nothing is left of issues that have those codes. -/
theorem without_eq_nil (h : ∀ i ∈ xs, i.Bears codes) (hdropped : codes ⊆ dropped) :
    without dropped xs = [] :=
  List.filter_eq_nil_iff.mpr fun i hi hkept => of_decide_eq_true hkept (hdropped (h i hi).1)

/-- Leaving out warnings leaves the verdict as it was. -/
theorem hasErrors_without (h : ∀ i ∈ xs, i.severity = i.code.severity)
    (hwarning : ∀ code ∈ dropped, code.severity = .warning) :
    (without dropped xs).hasErrors = hasErrors xs := by
  rw [Bool.eq_iff_iff, hasErrors, hasErrors, List.any_eq_true, List.any_eq_true]
  constructor
  · rintro ⟨i, hi, herror⟩
    exact ⟨i, (List.mem_filter.mp hi).1, herror⟩
  · rintro ⟨i, hi, herror⟩
    refine ⟨i, List.mem_filter.mpr ⟨hi, decide_eq_true fun hcode => ?_⟩, herror⟩
    rw [Issue.isError, h i hi, hwarning i.code hcode] at herror
    cases herror

/-- The issues of a report that have some codes. -/
def among (codes : List IssueCode) (report : Report) : Report :=
  report.filter (·.code ∈ codes)

theorem among_append : among codes (xs ++ ys) = among codes xs ++ among codes ys :=
  List.filter_append xs ys

theorem among_eq_self (h : ∀ i ∈ xs, i.Bears codes) : among codes xs = xs :=
  List.filter_eq_self.mpr fun i hi => decide_eq_true (h i hi).1

theorem among_eq_nil (h : ∀ i ∈ xs, i.Bears codes) (hother : ∀ code ∈ codes, code ∉ dropped) :
    among dropped xs = [] :=
  List.filter_eq_nil_iff.mpr fun i hi hkept => hother i.code (h i hi).1 (of_decide_eq_true hkept)

/-- The issues of a report that have one code. -/
def only (code : IssueCode) (report : Report) : Report :=
  report.filter (·.code = code)

theorem only_eq_among : only code xs = among [code] xs :=
  List.filter_congr fun _ _ => decide_eq_decide.mpr List.mem_singleton.symm

theorem only_append : only code (xs ++ ys) = only code xs ++ only code ys :=
  List.filter_append xs ys

theorem only_flatMap {α : Type} {as : List α} {f : α → List Issue} :
    only code (as.flatMap f) = as.flatMap fun a => only code (f a) :=
  List.filter_flatMap

/-- All issues are kept if they have that code. -/
theorem only_eq_self (h : ∀ i ∈ xs, i.Bears [code]) : only code xs = xs :=
  List.filter_eq_self.mpr fun i hi => decide_eq_true (List.mem_singleton.mp (h i hi).1)

/-- Issues that have other codes are left out. -/
theorem only_eq_nil (h : ∀ i ∈ xs, i.Bears codes) (hcode : code ∉ codes) : only code xs = [] :=
  List.filter_eq_nil_iff.mpr fun i hi hkept => hcode (of_decide_eq_true hkept ▸ (h i hi).1)

/-- Nothing is left out with a code that no issue has. -/
theorem without_eq_self_iff : without [code] xs = xs ↔ only code xs = [] := by
  rw [without, only, List.filter_eq_self, List.filter_eq_nil_iff]
  refine forall₂_congr fun i _ => ?_
  rw [decide_eq_true_iff, decide_eq_true_iff, List.mem_singleton]

end Report

/-! ### Nodes -/

section Nodes

variable {r : Registry} {o : Options} {s : Snapshot} {n : RawNode} {id : String} {c : Contract}

theorem typeIssues_isOn :
    ∀ i ∈ typeIssues r n id, i.IsOn .node id [.missingNodeType, .invalidNodeType] := by
  rw [typeIssues]
  split_ifs
  · exact List.forall_mem_singleton.mpr (Issue.isOn_ofElement (by decide) _)
  · exact List.forall_mem_singleton.mpr (Issue.isOn_ofElement (by decide) _)
  · exact List.forall_mem_nil _

theorem positionIssues_isOn :
    ∀ i ∈ positionIssues n id, i.IsOn .node id [.missingNodePosition, .invalidNodePosition] := by
  rw [positionIssues]
  split_ifs
  · exact List.forall_mem_singleton.mpr (Issue.isOn_ofElement (by decide) _)
  · exact List.forall_mem_singleton.mpr (Issue.isOn_ofElement (by decide) _)
  · exact List.forall_mem_nil _

theorem requiredIssues_isOnField {required : String} :
    ∀ i ∈ requiredIssues o s n id required,
      i.IsOnField id .input required [.missingRequiredInput, .requiredInputEmpty] := by
  rw [requiredIssues]
  cases n.findInput? required with
  | none => exact List.forall_mem_singleton.mpr (Issue.isOnField_ofField (by decide) _)
  | some input =>
    exact forall_mem_ite_nil (List.forall_mem_singleton.mpr (Issue.isOnField_ofField (by decide) _))

theorem inputIssues_isOn {allowed : List String} {input : RawInput} :
    ∀ i ∈ inputIssues allowed id input,
      i.IsOn .node id [.missingInputId] ∨ ∃ field : String, i.IsOnField id .input field [.unknownInput] := by
  rw [inputIssues]
  cases input.id with
  | none => exact List.forall_mem_singleton.mpr (Or.inl (Issue.isOn_ofElement (by decide) _))
  | some field =>
    dsimp only
    split_ifs
    · exact List.forall_mem_nil _
    · exact List.forall_mem_singleton.mpr (Or.inr ⟨field, Issue.isOnField_ofField (by decide) _⟩)

theorem inputIssues_bears {allowed : List String} {input : RawInput} :
    ∀ i ∈ inputIssues allowed id input, i.Bears [.missingInputId, .unknownInput] := by
  intro i hi
  rcases inputIssues_isOn i hi with h | ⟨field, h⟩
  · exact h.bears.mono (by decide)
  · exact h.bears.mono (by decide)

theorem outputIssues_isOn {out : RawOutput} :
    ∀ i ∈ outputIssues o id c out,
      i.IsOn .node id [.missingOutputId] ∨ i.IsOnField id .output out.id [.invalidOutputDeleted] ∨
        ∃ field : String, i.IsOnField id .output field [.unknownOutput] := by
  rw [outputIssues, List.forall_mem_append, List.forall_mem_append]
  refine ⟨⟨?missing, ?deleted⟩, ?unknown⟩
  case missing =>
    exact forall_mem_ite_nil (List.forall_mem_singleton.mpr (Or.inl (Issue.isOn_ofElement (by decide) _)))
  case deleted =>
    exact forall_mem_ite_nil
      (List.forall_mem_singleton.mpr (Or.inr (Or.inl (Issue.isOnField_ofField (by decide) _))))
  case unknown =>
    cases out.id with
    | none => exact List.forall_mem_nil _
    | some field =>
      dsimp only
      split_ifs
      · exact List.forall_mem_nil _
      · exact List.forall_mem_singleton.mpr
          (Or.inr (Or.inr ⟨field, Issue.isOnField_ofField (by decide) _⟩))

theorem versionIssues_isOn :
    ∀ i ∈ versionIssues o n id,
      i.IsOn .node id [.missingNodeVersion, .invalidVersionSyntax, .prereleaseVersion] := by
  rw [versionIssues]
  split
  · exact forall_mem_ite_nil (List.forall_mem_singleton.mpr (Issue.isOn_ofElement (by decide) _))
  · split
    · exact List.forall_mem_singleton.mpr (Issue.isOn_ofElement (by decide) _)
    · exact forall_mem_ite_nil (List.forall_mem_singleton.mpr (Issue.isOn_ofElement (by decide) _))

theorem overlapIssues_isOn : ∀ i ∈ overlapIssues s n id, i.IsOn .node id [.nodePositionOverlap] := by
  rw [overlapIssues]
  cases n.coordinates? with
  | none => exact List.forall_mem_nil _
  | some here =>
    intro i hi
    obtain ⟨other, -, hi⟩ := List.mem_filterMap.mp hi
    cases hother : other.coordinates? with
    | none =>
      rw [hother] at hi
      cases hi
    | some there =>
      simp only [hother] at hi
      split_ifs at hi
      cases hi
      exact Issue.isOn_ofElement (by decide) _

end Nodes

/-! ### The issues of a node in parts -/

section Parts

variable {r : Registry} {o : Options} {s : Snapshot} {repeated : Bool} {n : RawNode} {id : String}

/-- Issues of a node with an id, apart from those of its version and of its overlaps. -/
def formIssues (r : Registry) (o : Options) (s : Snapshot) (repeated : Bool) (n : RawNode) (id : String) :
    List Issue :=
  (if repeated then [.ofElement .error .duplicateNodeId .node id ("Duplicate node ID: " ++ id)] else [])
    ++ typeIssues r n id
    ++ positionIssues n id
    ++ (match r.checkedContract? n with
      | some c => inputsIssues o s n id c ++ n.outputs.flatMap (outputIssues o id c)
      | none => [])

/-- The codes of those issues. -/
def formCodes : List IssueCode :=
  [.duplicateNodeId, .missingNodeType, .invalidNodeType, .missingNodePosition, .invalidNodePosition,
    .missingRequiredInput, .requiredInputEmpty, .missingInputId, .unknownInput, .missingOutputId,
    .invalidOutputDeleted, .unknownOutput]

/-- The issue of a node without an id. -/
def namelessIssue (n : RawNode) : Issue :=
  .ofElement .error .missingNodeId .node none
    ("Node at index " ++ toString n.index ++ " is missing required field: id")

theorem nodeIssues_of_no_id (hid : n.id = none) : nodeIssues r o s repeated n = [namelessIssue n] := by
  rw [nodeIssues, hid]
  rfl

theorem nodeIssues_of_id (hid : n.id = some id) :
    nodeIssues r o s repeated n = formIssues r o s repeated n id ++ versionIssues o n id
      ++ (if o.checksWholeFlow then overlapIssues s n id else []) := by
  rw [nodeIssues, hid]
  rfl

/-- Of the issues of a node with an id those with some codes are issues of its form, if its version and its
overlaps have no such codes. -/
theorem among_nodeIssues_of_id {codes : List IssueCode} (hid : n.id = some id)
    (hversion : ∀ code ∈ [.missingNodeVersion, .invalidVersionSyntax, .prereleaseVersion], code ∉ codes)
    (hoverlap : ∀ code ∈ [.nodePositionOverlap], code ∉ codes) :
    Report.among codes (nodeIssues r o s repeated n) = Report.among codes (formIssues r o s repeated n id) := by
  have hoverlaps : Report.among codes (if o.checksWholeFlow then overlapIssues s n id else []) = [] :=
    Report.among_eq_nil (forall_mem_ite_nil fun i hi => (overlapIssues_isOn i hi).bears) hoverlap
  rw [nodeIssues_of_id hid, Report.among_append, Report.among_append, hoverlaps,
    Report.among_eq_nil (fun i hi => (versionIssues_isOn i hi).bears) hversion, List.append_nil,
    List.append_nil]

theorem inputsIssues_bears {c : Contract} :
    ∀ i ∈ inputsIssues o s n id c,
      i.Bears [.missingRequiredInput, .requiredInputEmpty, .missingInputId, .unknownInput] := by
  rw [inputsIssues, List.forall_mem_append]
  refine ⟨fun i hi => ?_, fun i hi => ?_⟩
  · obtain ⟨required, -, hi⟩ := List.mem_flatMap.mp hi
    exact (requiredIssues_isOnField i hi).bears.mono (by decide)
  · obtain ⟨input, -, hi⟩ := List.mem_flatMap.mp hi
    exact (inputIssues_bears i hi).mono (by decide)

theorem outputsIssues_bears {c : Contract} {outs : List RawOutput} :
    ∀ i ∈ outs.flatMap (outputIssues o id c),
      i.Bears [.missingOutputId, .invalidOutputDeleted, .unknownOutput] := by
  intro i hi
  obtain ⟨out, -, hi⟩ := List.mem_flatMap.mp hi
  rcases outputIssues_isOn i hi with h | h | ⟨field, h⟩
  · exact h.bears.mono (by decide)
  · exact h.bears.mono (by decide)
  · exact h.bears.mono (by decide)

/-- The issue of an id that comes again. -/
theorem repeatedIssues_bears :
    ∀ i ∈ (if repeated then [.ofElement .error .duplicateNodeId .node id ("Duplicate node ID: " ++ id)]
      else [] : List Issue), i.Bears [.duplicateNodeId] :=
  forall_mem_ite_nil (List.forall_mem_singleton.mpr ⟨List.mem_singleton_self _, rfl⟩)

theorem formIssues_bears : ∀ i ∈ formIssues r o s repeated n id, i.Bears formCodes := by
  rw [formIssues, List.forall_mem_append, List.forall_mem_append, List.forall_mem_append]
  refine ⟨⟨⟨?repeats, ?type⟩, ?position⟩, ?fields⟩
  case repeats => exact fun i hi => (repeatedIssues_bears i hi).mono (by decide)
  case type => exact fun i hi => (typeIssues_isOn i hi).bears.mono (by decide)
  case position => exact fun i hi => (positionIssues_isOn i hi).bears.mono (by decide)
  case fields =>
    cases r.checkedContract? n with
    | none => exact List.forall_mem_nil _
    | some c =>
      rw [List.forall_mem_append]
      exact ⟨fun i hi => (inputsIssues_bears i hi).mono (by decide),
        fun i hi => (outputsIssues_bears i hi).mono (by decide)⟩

/-- The issue of a node whose id comes again. -/
def repeatIssue (id : String) : Issue :=
  .ofElement .error .duplicateNodeId .node id ("Duplicate node ID: " ++ id)

theorem only_repeated_formIssues :
    Report.only .duplicateNodeId (formIssues r o s repeated n id) = if repeated then [repeatIssue id] else [] := by
  have hrepeats : Report.only .duplicateNodeId
      (if repeated then [.ofElement .error .duplicateNodeId .node id ("Duplicate node ID: " ++ id)] else []) =
        if repeated then [repeatIssue id] else [] := Report.only_eq_self repeatedIssues_bears
  rw [formIssues, Report.only_append, Report.only_append, Report.only_append, hrepeats,
    Report.only_eq_nil (fun i hi => (typeIssues_isOn i hi).bears) (by decide),
    Report.only_eq_nil (fun i hi => (positionIssues_isOn i hi).bears) (by decide), List.append_nil,
    List.append_nil]
  cases r.checkedContract? n with
  | none => exact List.append_nil _
  | some c =>
    dsimp only
    rw [Report.only_append, Report.only_eq_nil inputsIssues_bears (by decide),
      Report.only_eq_nil outputsIssues_bears (by decide), List.append_nil, List.append_nil]

/-- A node is reported for its id coming again exactly when it is told that it does. -/
theorem only_repeated_nodeIssues : Report.only .duplicateNodeId (nodeIssues r o s repeated n) =
    (if repeated then n.id.toList else []).map repeatIssue := by
  cases hid : n.id with
  | none =>
    rw [nodeIssues_of_no_id hid]
    cases repeated <;> rfl
  | some id =>
    rw [Report.only_eq_among, among_nodeIssues_of_id hid (by decide) (by decide), ← Report.only_eq_among,
      only_repeated_formIssues]
    cases repeated <;> rfl

/-- The codes of all issues of nodes. -/
def nodeCodes : List IssueCode :=
  .missingNodeId :: .nodePositionOverlap :: .missingNodeVersion :: .invalidVersionSyntax
    :: .prereleaseVersion :: formCodes

theorem nodeIssues_bears : ∀ i ∈ nodeIssues r o s repeated n, i.Bears nodeCodes := by
  cases hid : n.id with
  | none =>
    rw [nodeIssues_of_no_id hid]
    exact List.forall_mem_singleton.mpr ⟨List.mem_cons_self, rfl⟩
  | some id =>
    rw [nodeIssues_of_id hid, List.forall_mem_append, List.forall_mem_append]
    refine ⟨⟨fun i hi => ?_, fun i hi => ?_⟩, forall_mem_ite_nil fun i hi => ?_⟩
    · exact (formIssues_bears i hi).mono (by decide)
    · exact (versionIssues_isOn i hi).bears.mono (by decide)
    · exact (overlapIssues_isOn i hi).bears.mono (by decide)

/-- The issues of one code are those of the nodes in turn, if they do not depend on ids that come again. -/
theorem only_nodesIssues {code : IssueCode} {f : RawNode → List Issue}
    (h : ∀ repeated n, Report.only code (nodeIssues r o s repeated n) = f n) :
    ∀ (seen : List String) (ns : List RawNode),
      Report.only code (nodesIssues r o s seen ns) = ns.flatMap f
  | _, [] => rfl
  | seen, n :: ns => by
    rw [nodesIssues, Report.only_append, h, only_nodesIssues h _ ns, List.flatMap_cons]

/-- What a run leaves out of the issues of each node, it leaves out of the issues of all. -/
theorem nodesIssues_without {o' : Options} {codes : List IssueCode}
    (h : ∀ repeated n, nodeIssues r o s repeated n = Report.without codes (nodeIssues r o' s repeated n)) :
    ∀ (seen : List String) (ns : List RawNode),
      nodesIssues r o s seen ns = Report.without codes (nodesIssues r o' s seen ns)
  | _, [] => rfl
  | seen, n :: ns => by
    rw [nodesIssues, nodesIssues, Report.without_append, h, nodesIssues_without h _ ns]

theorem nodesIssues_bears :
    ∀ (seen : List String) (ns : List RawNode), ∀ i ∈ nodesIssues r o s seen ns, i.Bears nodeCodes
  | _, [] => List.forall_mem_nil _
  | _, _ :: ns => List.forall_mem_append.mpr ⟨nodeIssues_bears, nodesIssues_bears _ ns⟩

end Parts

/-! ### Nodes in two snapshots -/

section Fed

variable {r : Registry} {o : Options} {s s' : Snapshot} {repeated : Bool} {n : RawNode} {id : String}
  {c : Contract}

/-- Of the other nodes and of the edges the inputs of a node depend on which of its fields are fed. -/
theorem inputsIssues_congr (h : ∀ field, isConnected s id field = isConnected s' id field) :
    inputsIssues o s n id c = inputsIssues o s' n id c := by
  have hrequired : requiredIssues o s n id = requiredIssues o s' n id := by
    funext required
    rw [requiredIssues, requiredIssues, h]
  rw [inputsIssues, inputsIssues, hrequired]

theorem formIssues_congr (h : ∀ field, isConnected s id field = isConnected s' id field) :
    formIssues r o s repeated n id = formIssues r o s' repeated n id := by
  rw [formIssues, formIssues]
  cases r.checkedContract? n with
  | none => rfl
  | some c => simp only [inputsIssues_congr h]

end Fed

/-! ### Edges -/

section Edges

variable {r : Registry} {s : Snapshot} {e : RawEdge} {name : String} {code : IssueCode}

theorem edgeIssue_isOn (h : code.severity = .error) (message : String) :
    (edgeIssue e code message).IsOn .edge e.id [code] :=
  Issue.isOn_ofElement ⟨List.mem_singleton_self _, h⟩ message

theorem absentIssues_isOn {part : Option String} (h : code.severity = .error) :
    ∀ i ∈ absentIssues e part name code, i.IsOn .edge e.id [code] :=
  forall_mem_ite_nil (List.forall_mem_singleton.mpr (edgeIssue_isOn h _))

theorem danglingIssues_isOn {ending : Option String} (h : code.severity = .error) :
    ∀ i ∈ danglingIssues s e ending name code, i.IsOn .edge e.id [code] := by
  unfold danglingIssues
  cases ending with
  | none => exact List.forall_mem_nil _
  | some id =>
    dsimp only
    split_ifs
    · exact List.forall_mem_nil _
    · exact List.forall_mem_singleton.mpr (edgeIssue_isOn h _)

theorem danglingIssues_of_node?_eq_none {id : String} (h : s.node? id = none) :
    danglingIssues s e id name code =
      [edgeIssue e code ("Edge references non-existent " ++ name ++ " node: " ++ id)] := by
  rw [danglingIssues, h]
  rfl

theorem handleIssues_isOn {ending handle : Option String} {handles : RawNode → List String}
    (h : code.severity = .error) :
    ∀ i ∈ handleIssues s e ending handle handles name code, i.IsOn .edge e.id [code] := by
  unfold handleIssues
  split
  · split
    · exact List.forall_mem_nil _
    · split_ifs
      · exact List.forall_mem_nil _
      · exact List.forall_mem_singleton.mpr (edgeIssue_isOn h _)
  · exact List.forall_mem_nil _

/-- The codes of the issues of edges. -/
def edgeCodes : List IssueCode :=
  [.missingEdgeSource, .missingEdgeSourceHandle, .missingEdgeTarget, .missingEdgeTargetHandle,
    .invalidEdgeSourceNode, .invalidEdgeTargetNode, .invalidEdgeSourceHandle, .invalidEdgeTargetHandle]

theorem edgeIssues_isOn : ∀ i ∈ edgeIssues r s e, i.IsOn .edge e.id edgeCodes := by
  simp only [edgeIssues, List.forall_mem_append]
  refine ⟨⟨⟨⟨⟨⟨⟨?_, ?_⟩, ?_⟩, ?_⟩, ?_⟩, ?_⟩, ?_⟩, ?_⟩
  · exact fun i hi => (absentIssues_isOn rfl i hi).mono (by decide)
  · exact fun i hi => (absentIssues_isOn rfl i hi).mono (by decide)
  · exact fun i hi => (absentIssues_isOn rfl i hi).mono (by decide)
  · exact fun i hi => (absentIssues_isOn rfl i hi).mono (by decide)
  · exact fun i hi => (danglingIssues_isOn rfl i hi).mono (by decide)
  · exact fun i hi => (danglingIssues_isOn rfl i hi).mono (by decide)
  · exact fun i hi => (handleIssues_isOn rfl i hi).mono (by decide)
  · exact fun i hi => (handleIssues_isOn rfl i hi).mono (by decide)

end Edges

/-! ### Edges in two snapshots -/

section Alike

variable {s s' : Snapshot} {key : RawNode → RawNode} {e e' : RawEdge} {name : String} {code : IssueCode}

/-- Whether an edge dangles depends on which ids have a node. -/
theorem danglingIssues_congr (hfound : ∀ id, (s.node? id).map key = (s'.node? id).map key)
    (hid : e.id = e'.id) (ending : Option String) :
    danglingIssues s e ending name code = danglingIssues s' e' ending name code := by
  unfold danglingIssues
  cases ending with
  | none => rfl
  | some id =>
    have hsome := congrArg Option.isSome (hfound id)
    rw [Option.isSome_map, Option.isSome_map] at hsome
    dsimp only
    rw [hsome, edgeIssue, edgeIssue, hid]

/-- Whether an edge has a handle of its node depends on what the handles of the node depend on. -/
theorem handleIssues_congr (hfound : ∀ id, (s.node? id).map key = (s'.node? id).map key)
    (hid : e.id = e'.id) (ending handle : Option String) {handles : RawNode → List String}
    (hhandles : ∀ n, handles n = handles (key n)) :
    handleIssues s e ending handle handles name code =
      handleIssues s' e' ending handle handles name code := by
  unfold handleIssues
  cases ending with
  | none => rfl
  | some id =>
    cases handle with
    | none => rfl
    | some field =>
      have hnode := hfound id
      dsimp only
      cases hn : s.node? id with
      | none =>
        rw [hn, Option.map_none, eq_comm, Option.map_eq_none_iff] at hnode
        rw [hnode]
      | some n =>
        rw [hn, Option.map_some, eq_comm, Option.map_eq_some_iff] at hnode
        obtain ⟨m, hm, hsame⟩ := hnode
        rw [hm]
        dsimp only
        rw [hhandles n, hhandles m, hsame, edgeIssue, edgeIssue, hid]

end Alike

/-! ### The graph -/

section Whole

variable {r : Registry} {o : Options} {s : Snapshot} {flow : Value}

/-- Of the nodes the issues of the graph depend on their number and their ids. -/
theorem graphIssues_congr {s' : Snapshot} (hlength : s'.nodes.length = s.nodes.length)
    (hids : s'.nodes.filterMap (·.id) = s.nodes.filterMap (·.id)) (hedges : s'.edges = s.edges) :
    graphIssues s' = graphIssues s := by
  rw [graphIssues, graphIssues, isolationIssues, isolationIssues, cycleIssues, cycleIssues, hids, hlength,
    Snapshot.connectedIds, Snapshot.connectedIds, Snapshot.adjacency, Snapshot.adjacency, hedges]

theorem isolationIssues_isOn :
    ∀ i ∈ isolationIssues s, ∃ id : String, i.IsOn .node id [.isolatedNode] := by
  rw [isolationIssues]
  split_ifs
  · exact List.forall_mem_nil _
  · exact List.forall_mem_map.mpr fun id _ => ⟨id, Issue.isOn_ofElement (by decide) _⟩

theorem cycleIssues_isOn :
    ∀ i ∈ cycleIssues s, ∃ id, i.IsOn .node id [.circularDependency] :=
  List.forall_mem_map.mpr fun path _ => ⟨path.head?, Issue.isOn_ofElement (by decide) _⟩

/-- The codes of the issues of the graph. -/
def graphCodes : List IssueCode :=
  [.isolatedNode, .circularDependency]

theorem isolationIssues_bears : ∀ i ∈ isolationIssues s, i.Bears [.isolatedNode] := by
  intro i hi
  obtain ⟨id, h⟩ := isolationIssues_isOn i hi
  exact h.bears

theorem cycleIssues_bears : ∀ i ∈ cycleIssues s, i.Bears [.circularDependency] := by
  intro i hi
  obtain ⟨id, h⟩ := cycleIssues_isOn i hi
  exact h.bears

theorem graphIssues_bears : ∀ i ∈ graphIssues s, i.Bears graphCodes :=
  List.forall_mem_append.mpr ⟨fun i hi => (isolationIssues_bears i hi).mono (by decide),
    fun i hi => (cycleIssues_bears i hi).mono (by decide)⟩

theorem flatMap_edgeIssues_bears :
    ∀ i ∈ s.edges.flatMap (edgeIssues r s), i.Bears edgeCodes := by
  intro i hi
  obtain ⟨e, -, hi⟩ := List.mem_flatMap.mp hi
  exact (edgeIssues_isOn i hi).bears

/-! ### Whole reports -/

/-- A report has the issues of one code from the nodes, if it is no code of edges or of the graph. -/
theorem Snapshot.only_issues {code : IssueCode} (hedge : code ∉ edgeCodes) (hgraph : code ∉ graphCodes) :
    Report.only code (s.issues r o) = Report.only code (nodesIssues r o s [] s.nodes) := by
  have hwhole : Report.only code
      (if o.checksWholeFlow then s.edges.flatMap (edgeIssues r s) ++ graphIssues s else []) = [] := by
    split_ifs
    · rw [Report.only_append, Report.only_eq_nil flatMap_edgeIssues_bears hedge,
        Report.only_eq_nil graphIssues_bears hgraph]
      rfl
    · rfl
  rw [issues, Report.only_append, hwhole, List.append_nil]

/-- The codes of what is no flow. -/
def shapeCodes : List IssueCode :=
  [.invalidFlowData, .missingNodesArray, .missingEdgesArray]

/-- What is no flow is reported as a whole. -/
theorem RawFlow.eq_ofFlow_of_malformed {issue : Issue} (h : ofValue flow = .malformed issue) :
    ∃ code ∈ shapeCodes, ∃ message, issue = .ofFlow code.severity code message := by
  rw [ofValue] at h
  have hfits : ∀ {code : IssueCode} {message : String}, code ∈ shapeCodes ∧ code.severity = .error →
      ∃ c ∈ shapeCodes, ∃ m, Issue.ofFlow .error code message = .ofFlow c.severity c m :=
    fun {code message} h => ⟨code, h.1, message, by rw [h.2]⟩
  split_ifs at h <;> cases h <;> exact hfits (by decide)

theorem RawFlow.bears_of_malformed {issue : Issue} (h : ofValue flow = .malformed issue) :
    ∀ i ∈ [issue], i.Bears shapeCodes := by
  obtain ⟨code, hcode, message, rfl⟩ := eq_ofFlow_of_malformed h
  exact List.forall_mem_singleton.mpr ⟨hcode, rfl⟩

/-- Every issue of a run has the severity of its code. -/
theorem severity_of_mem_lint {report : Report} (h : lint r o flow = .ok report) :
    ∀ i ∈ report, i.severity = i.code.severity := by
  rcases lint_eq_ok_cases h with ⟨issue, hflow, rfl⟩ | ⟨-, -, rfl⟩
  · exact fun i hi => (RawFlow.bears_of_malformed hflow i hi).2
  · rw [Snapshot.issues, List.forall_mem_append]
    refine ⟨fun i hi => (nodesIssues_bears [] _ i hi).2, forall_mem_ite_nil ?_⟩
    rw [List.forall_mem_append]
    exact ⟨fun i hi => (flatMap_edgeIssues_bears i hi).2, fun i hi => (graphIssues_bears i hi).2⟩

end Whole

end WorkflowCheck
