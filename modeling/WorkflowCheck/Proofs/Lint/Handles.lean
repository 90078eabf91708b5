import WorkflowCheck.Proofs.Lint.Reported
import WorkflowCheck.Registry.Builtin

/-!
# Edges that the editor draws, and edges that count

The handles of an edge are read in two places.  The rule for edges asks that the field of a handle is one
that the node offers, and the rule for required inputs asks whether the field of a handle names the
input.  An edge that is drawn from a field to a field is accepted unless a field ends like a handle
(`edgeIssues_drawn_iff`).  An edge that counts as the connection of an input is accepted only if the whole
field of its handle is offered, so a field behind a separator counts and is reported
(`targetHandle_reported_iff`).
-/

namespace WorkflowCheck

/-! ### The issues of an edge -/

section Issues

variable {r : Registry} {o : Options} {s : Snapshot} {flow e : Value} {k : Nat}

/-- All issues of edges are errors. -/
theorem edgeIssues_eq_nil_iff {e : RawEdge} : edgeIssues r s e = [] ↔ Clean (edgeIssues r s e) := by
  have herrors : ∀ code ∈ edgeCodes, code.severity = .error := by decide
  constructor
  · intro h
    rw [h]
    exact clean_nil
  · intro hclean
    refine List.eq_nil_iff_forall_not_mem.mpr fun i hi => ?_
    obtain ⟨hcode, hseverity⟩ := (edgeIssues_isOn i hi).bears
    have herror : i.isError = true := by
      rw [Issue.isError, hseverity, herrors i.code hcode]
      rfl
    rw [hclean i hi] at herror
    cases herror

/-- What is reported with one code is not reported with another one. -/
theorem exists_code_iff_false {id : Option String} {issues : List Issue} {code code' : IssueCode}
    (h : ∀ i ∈ issues, i.IsOn .edge id [code]) (hne : code' ≠ code) :
    (∃ i ∈ issues, i.code = code') ↔ False := by
  refine iff_false_intro ?_
  rintro ⟨i, hi, rfl⟩
  exact hne (List.mem_singleton.mp (h i hi).bears.1)

/-- The handle of a target is reported when the node of the target does not offer its field. -/
theorem exists_invalidTargetHandle_iff {e : RawEdge} {id handle : String} (htarget : e.target = some id)
    (hhandle : e.targetHandle = some handle) :
    (∃ i ∈ edgeIssues r s e, i.code = .invalidEdgeTargetHandle) ↔
      ∃ n, s.node? id = some n ∧ fieldOfHandle handle ∉ inputHandles r n := by
  simp only [edgeIssues, List.mem_append, or_and_right, exists_or]
  -- of the eight rules only the last one has this code
  rw [exists_code_iff_false (absentIssues_isOn (by decide)) (by decide),
    exists_code_iff_false (absentIssues_isOn (by decide)) (by decide),
    exists_code_iff_false (absentIssues_isOn (by decide)) (by decide),
    exists_code_iff_false (absentIssues_isOn (by decide)) (by decide),
    exists_code_iff_false (danglingIssues_isOn (by decide)) (by decide),
    exists_code_iff_false (danglingIssues_isOn (by decide)) (by decide),
    exists_code_iff_false (handleIssues_isOn (by decide)) (by decide)]
  simp only [false_or, htarget, hhandle, handleIssues]
  cases s.node? id with
  | none => simp
  | some n =>
    by_cases hoffered : fieldOfHandle handle ∈ inputHandles r n
    · simp [hoffered]
    · simp [hoffered, edgeIssue, Issue.ofElement]

/-- Only a list has members. -/
theorem isArray_of_mem_items {v w : Value} (h : w ∈ v.items) : v.isArray = true := by
  obtain ⟨first, hfirst⟩ := Option.isSome_iff_exists.mp (List.isSome_head?.mpr (List.ne_nil_of_mem h))
  exact (isArray_of_head? hfirst).1

/-- A flow with a node and an edge has both lists. -/
theorem hasLists_of_mem {n : Value} (hn : n ∈ flowNodes flow) (he : e ∈ flowEdges flow) :
    HasLists flow := by
  have hnodes : (flow.field "nodes").isArray = true := isArray_of_mem_items hn
  have hobject : flow.isObject = true := by
    apply Value.isObject_of_field_ne_null
    intro hnull
    rw [hnull] at hnodes
    cases hnodes
  exact ⟨hobject, hnodes, isArray_of_mem_items he⟩

/-- A run over the whole flow reports the issues of each edge, one behind the other. -/
theorem edgeIssues_infix {report : Report} (hlists : HasLists flow) (hmode : o.mode = .flow)
    (he : (flowEdges flow)[k]? = some e) (hreport : lint r o flow = .ok report) :
    edgeIssues r (flowSnapshot flow) (.ofValue k e) <:+: report := by
  rw [lint_eq_snapshot hlists] at hreport
  obtain ⟨-, rfl⟩ := Snapshot.lint_eq_ok_iff.mp hreport
  have hedge : RawEdge.ofValue k e ∈ (flowSnapshot flow).edges := mem_readIndexed.mpr ⟨k, e, he, rfl⟩
  have hamong : edgeIssues r (flowSnapshot flow) (.ofValue k e) <:+:
      (flowSnapshot flow).edges.flatMap (edgeIssues r (flowSnapshot flow)) := by
    rw [List.flatMap_def]
    exact List.infix_of_mem_flatten (List.mem_map_of_mem hedge)
  rw [Snapshot.issues, if_pos (checksWholeFlow_iff.mpr hmode)]
  exact (hamong.trans (List.infix_append' [] _ _)).trans (List.suffix_append _ _).isInfix

end Issues

/-! ### Edges that are drawn -/

/-- An edge leads from an output of one node to an input of another one, by the handles of the fields. -/
structure IsDrawn (e : Value) (source output target input : String) : Prop where
  source : e.field "source" = .str source
  outHandle : e.field "sourceHandle" = .str (handleOfField output)
  target : e.field "target" = .str target
  inHandle : e.field "targetHandle" = .str (handleOfField input)

/-- The field that the handle of an offered field is read as is offered, unless it has lost its end. -/
theorem fieldOfHandle_handleOfField_mem_iff {field : String} {offered : List String}
    (h : field ∈ offered) :
    fieldOfHandle (handleOfField field) ∈ offered ↔ (IsHandle field → fieldOfHandle field ∈ offered) := by
  by_cases hfield : IsHandle field
  · rw [handleOfField_of_isHandle hfield]
    exact (imp_iff_right hfield).symm
  · rw [fieldOfHandle_handleOfField_eq_self_iff.mpr hfield]
    exact iff_of_true h fun hhandle => absurd hhandle hfield

theorem ne_empty_of_node? {nodes edges : List Value} {id : String} {n : RawNode}
    (h : (Snapshot.ofValues nodes edges).node? id = some n) : id ≠ "" := by
  rw [Snapshot.node?_ofValues] at h
  have hpasses := List.find?_some h
  have hid : n.id = some id := by simpa using hpasses
  obtain ⟨k, v, -, rfl⟩ := mem_readIndexed.mp (List.mem_of_find?_eq_some h)
  exact (Value.filledText?_eq_some_iff.mp hid).2

/-- **Drawn edges.**  An edge that is drawn between fields which two nodes offer has no issue unless a field
ends like a handle; a field that does is read without its end, and the edge has no issue exactly if that
is offered too.  A handle is read as the field that it was written for exactly if the field does not end
like a handle. -/
theorem edgeIssues_drawn_iff (r : Registry) (nodes edges : List Value) (m n : RawNode)
    (source output target input : String) (e : Value) (k : Nat)
    (hm : (Snapshot.ofValues nodes edges).node? source = some m)
    (hn : (Snapshot.ofValues nodes edges).node? target = some n)
    (houtput : output ∈ outputHandles r m) (hinput : input ∈ inputHandles r n)
    (he : IsDrawn e source output target input) :
    (¬ IsHandle output → ¬ IsHandle input →
        edgeIssues r (.ofValues nodes edges) (.ofValue k e) = []) ∧
      (edgeIssues r (.ofValues nodes edges) (.ofValue k e) = [] ↔
        (IsHandle output → fieldOfHandle output ∈ outputHandles r m) ∧
          (IsHandle input → fieldOfHandle input ∈ inputHandles r n)) ∧
      ∀ field, fieldOfHandle (handleOfField field) = field ↔ ¬ IsHandle field := by
  have hfilled : ∀ {name text : String}, e.field name = .str text → text ≠ "" →
      (e.field name).filledText? = some text := fun hfield hne =>
    Value.filledText?_eq_some_iff.mpr ⟨hfield, hne⟩
  have hsource : (RawEdge.ofValue k e).source = some source := hfilled he.source (ne_empty_of_node? hm)
  have hout : (RawEdge.ofValue k e).sourceHandle = some (handleOfField output) :=
    hfilled he.outHandle (isHandle_handleOfField output).ne_empty
  have htarget : (RawEdge.ofValue k e).target = some target := hfilled he.target (ne_empty_of_node? hn)
  have hin : (RawEdge.ofValue k e).targetHandle = some (handleOfField input) :=
    hfilled he.inHandle (isHandle_handleOfField input).ne_empty
  have hedge : edgeIssues r (.ofValues nodes edges) (.ofValue k e) = [] ↔
      (IsHandle output → fieldOfHandle output ∈ outputHandles r m) ∧
        (IsHandle input → fieldOfHandle input ∈ inputHandles r n) := by
    rw [edgeIssues_eq_nil_iff, clean_edgeIssues, ← fieldOfHandle_handleOfField_mem_iff houtput,
      ← fieldOfHandle_handleOfField_mem_iff hinput]
    simp only [hsource, hout, htarget, hin, Option.some.injEq, exists_and_left, exists_eq_left', hm, hn]
  refine ⟨fun hnoOut hnoIn => ?_, hedge, fun field => fieldOfHandle_handleOfField_eq_self_iff⟩
  exact hedge.mpr ⟨fun h => absurd h hnoOut, fun h => absurd h hnoIn⟩

/-- Two types of node, of which one has an output whose name ends like a handle. -/
def gears : Registry :=
  [{ type := "crank_node", category := .compute, description := "", requiredInputs := ["speed"],
     optionalInputs := [], outputs := ["turn", "crank-handle"], dynamicField := none },
   { type := "wheel_node", category := .compute, description := "", requiredInputs := ["crank"],
     optionalInputs := [], outputs := [], dynamicField := none }].foldl Registry.withContract .empty

/-- The edge from an output of the crank to the wheel. -/
def gearsEdge (output : String) : Value :=
  .record
    [("id", .str output), ("source", .str "crank"), ("sourceHandle", .str (handleOfField output)),
      ("target", .str "wheel"), ("targetHandle", .str (handleOfField "crank"))]

/-- A crank that turns a wheel, with an edge from each of its outputs. -/
def gearsFlow : Value :=
  .record
    [("nodes", .arr
      [.record
        [("id", .str "crank"), ("type", .str "crank_node"),
          ("position", .record [("x", .int 0), ("y", .int 0)]),
          ("inputs", .arr [.record [("id", .str "speed"), ("value", .int 1)]])],
        .record
        [("id", .str "wheel"), ("type", .str "wheel_node"),
          ("position", .record [("x", .int 200), ("y", .int 0)]),
          ("inputs", .arr [.record [("id", .str "crank"), ("value", .null)]])]]),
      ("edges", .arr [gearsEdge "turn", gearsEdge "crank-handle"])]

theorem gearsFlow_turn :
    edgeIssues gears (flowSnapshot gearsFlow) (.ofValue 0 (gearsEdge "turn")) = [] ∧
      edgeIssues gears (flowSnapshot gearsFlow) (.ofValue 1 (gearsEdge "crank-handle")) ≠ [] := by
  have hcrank : ¬ IsHandle "crank" := by
    rw [← isSuffixOf_handleSuffix_iff]
    decide
  have hturn : ¬ IsHandle "turn" := by
    rw [← isSuffixOf_handleSuffix_iff]
    decide
  have hhandle : IsHandle "crank-handle" := ⟨"crank", by decide⟩
  have haccepted := edgeIssues_drawn_iff gears (flowNodes gearsFlow) (flowEdges gearsFlow) _ _ "crank" "turn"
    "wheel" "crank" (gearsEdge "turn") 0 rfl rfl (by decide) (by decide) ⟨rfl, rfl, rfl, rfl⟩
  have hrefused := edgeIssues_drawn_iff gears (flowNodes gearsFlow) (flowEdges gearsFlow) _ _ "crank"
    "crank-handle" "wheel" "crank" (gearsEdge "crank-handle") 1 rfl rfl (by decide) (by decide)
    ⟨rfl, rfl, rfl, rfl⟩
  refine ⟨haccepted.1 hturn hcrank, fun hnil => ?_⟩
  exact absurd ((hrefused.2.1.mp hnil).1 hhandle) (by decide)

/-- The field that ends like a handle is offered, and the edge that is drawn from it is reported. -/
theorem gearsFlow_crankHandle :
    ∃ m n, (flowSnapshot gearsFlow).node? "crank" = some m ∧ (flowSnapshot gearsFlow).node? "wheel" = some n ∧
      "crank-handle" ∈ outputHandles gears m ∧ "crank" ∈ inputHandles gears n ∧
      IsDrawn (gearsEdge "crank-handle") "crank" "crank-handle" "wheel" "crank" ∧
      fieldOfHandle (handleOfField "crank-handle") = "crank" ∧
      (edgeIssues gears (flowSnapshot gearsFlow) (.ofValue 1 (gearsEdge "crank-handle"))).map (·.code) =
        [.invalidEdgeSourceHandle] :=
  ⟨_, _, rfl, rfl, by decide, by decide, ⟨rfl, rfl, rfl, rfl⟩, by decide, by decide +kernel⟩

/-! ### Edges that count -/

/-- An edge counts as the connection of a required input that a node with a contract has. -/
structure Feeds (r : Registry) (flow e n : Value) (id required handle : String) : Prop where
  member : n ∈ flowNodes flow
  names : n.Names "id" id
  asked : ∃ c, HasContract r n c ∧ required ∈ c.requiredInputs
  present : ∃ i, FirstInput n required i
  target : e.Names "target" id
  inHandle : e.Names "targetHandle" handle
  field : HandleNames (fieldOfHandle handle) required

/-- **Edges that count.**  An edge that counts as the connection of a required input is reported for the
handle of its target exactly if the first node with that id does not offer the field of the handle as a
whole.  So it is not reported where that field is the input itself, and a run reports it where the input
is only named behind a separator and the node offers no such field. -/
theorem targetHandle_reported_iff (r : Registry) (o : Options) (flow e n : Value) (k : Nat)
    (id required handle : String) (hmode : o.mode = .flow) (he : (flowEdges flow)[k]? = some e)
    (hfeeds : Feeds r flow e n id required handle) :
    isConnected (flowSnapshot flow) id required = true ∧
      (∃ first, FirstNode flow id first ∧
        ((∃ i ∈ edgeIssues r (flowSnapshot flow) (.ofValue k e), i.code = .invalidEdgeTargetHandle) ↔
          ¬ OffersInput r first (fieldOfHandle handle)) ∧
        (first = n → fieldOfHandle handle = required → OffersInput r first (fieldOfHandle handle))) ∧
      ∀ report, lint r o flow = .ok report →
        edgeIssues r (flowSnapshot flow) (.ofValue k e) <:+: report := by
  have hmem : e ∈ flowEdges flow := List.mem_of_getElem? he
  obtain ⟨first, hfirst⟩ := exists_firstNode hfeeds.member hfeeds.names
  refine ⟨?counts, ⟨first, hfirst, ?reported, ?accepted⟩, ?report⟩
  case counts =>
    exact isConnected_iff.mpr ⟨e, hmem, hfeeds.target, handle, hfeeds.inHandle, hfeeds.field⟩
  case reported =>
    rw [exists_invalidTargetHandle_iff (Value.filledText?_field_iff.mpr hfeeds.target)
      (Value.filledText?_field_iff.mpr hfeeds.inHandle),
      exists_firstNode_iff fun k v => not_congr mem_inputHandles_iff]
    constructor
    · rintro ⟨v, hv, hrefused⟩
      rwa [hfirst.unique hv]
    · exact fun hrefused => ⟨first, hfirst, hrefused⟩
  case accepted =>
    rintro rfl hwhole
    obtain ⟨c, hc, hrequired⟩ := hfeeds.asked
    rw [hwhole]
    exact Or.inr ⟨c, hc, Or.inl (List.mem_append_left _ hrequired)⟩
  case report =>
    exact fun report hreport => edgeIssues_infix (hasLists_of_mem hfeeds.member hmem) hmode he hreport

/-- The edge from the listener to the prompt of the model, by some handle. -/
def wiredEdge (handle : String) : Value :=
  .record
    [("id", .str "e1"), ("source", .str "listener"), ("sourceHandle", .str "latest tweets-handle"),
      ("target", .str "model"), ("targetHandle", .str handle)]

/-- A model whose prompt comes from the edge. -/
def modelNode : Value :=
  .record
    [("id", .str "model"), ("type", .str "ai_model_node"),
      ("position", .record [("x", .int 200), ("y", .int 0)]),
      ("inputs", .arr
        [.record [("id", .str "model"), ("value", .str "m")],
          .record [("id", .str "prompt"), ("value", .null)]])]

/-- A listener that prompts a model. -/
def wiredFlow (handle : String) : Value :=
  .record
    [("nodes", .arr
      [.record
        [("id", .str "listener"), ("type", .str "x_listener_node"),
          ("position", .record [("x", .int 0), ("y", .int 0)]),
          ("inputs", .arr [.record [("id", .str "accounts"), ("value", .arr [.str "a"])]])],
        modelNode]),
      ("edges", .arr [wiredEdge handle])]

theorem feeds_wiredFlow {handle : String} (hne : handle ≠ "")
    (hfield : HandleNames (fieldOfHandle handle) "prompt") :
    Feeds .builtin (wiredFlow handle) (wiredEdge handle) modelNode "model" "prompt" handle where
  member := List.mem_cons_of_mem _ List.mem_cons_self
  names := ⟨rfl, by decide⟩
  asked := ⟨_, ⟨"ai_model_node", rfl, rfl⟩, by decide⟩
  present := by
    refine ⟨_, [_], [], rfl, ⟨rfl, by decide⟩, fun j hj hnamed => ?_⟩
    cases List.mem_singleton.mp hj
    exact absurd (Value.str.inj hnamed.1) (by decide)
  target := ⟨rfl, by decide⟩
  inHandle := ⟨rfl, hne⟩
  field := hfield

theorem firstNode_wiredFlow (handle : String) : FirstNode (wiredFlow handle) "model" modelNode := by
  refine ⟨[_], [], rfl, ⟨rfl, by decide⟩, fun m hm hnamed => ?_⟩
  cases List.mem_singleton.mp hm
  exact absurd (Value.str.inj hnamed.1) (by decide)

theorem wiredFlow_whole :
    isConnected (flowSnapshot (wiredFlow "prompt-handle")) "model" "prompt" = true ∧
      ¬ ∃ i ∈ edgeIssues .builtin (flowSnapshot (wiredFlow "prompt-handle"))
        (.ofValue 0 (wiredEdge "prompt-handle")), i.code = .invalidEdgeTargetHandle := by
  have hwhole : fieldOfHandle "prompt-handle" = "prompt" := by decide
  obtain ⟨hcounts, ⟨first, hfirst, hreported, haccepted⟩, -⟩ := targetHandle_reported_iff .builtin {}
    (wiredFlow "prompt-handle") (wiredEdge "prompt-handle") modelNode 0 "model" "prompt" "prompt-handle"
    rfl rfl (feeds_wiredFlow (by decide) (Or.inl hwhole))
  have hmodel : first = modelNode := hfirst.unique (firstNode_wiredFlow _)
  exact ⟨hcounts, fun h => hreported.mp h (haccepted hmodel hwhole)⟩

/-- The edge counts as the connection of the prompt, which it names behind a separator, and is reported. -/
theorem wiredFlow_separated :
    Feeds .builtin (wiredFlow "model:prompt-handle") (wiredEdge "model:prompt-handle") modelNode "model"
        "prompt" "model:prompt-handle" ∧
      isConnected (flowSnapshot (wiredFlow "model:prompt-handle")) "model" "prompt" = true ∧
      (edgeIssues .builtin (flowSnapshot (wiredFlow "model:prompt-handle"))
        (.ofValue 0 (wiredEdge "model:prompt-handle"))).map (·.code) = [.invalidEdgeTargetHandle] ∧
      ∃ report, lint .builtin {} (wiredFlow "model:prompt-handle") = .ok report ∧
        ∃ i ∈ report, i.code = .invalidEdgeTargetHandle := by
  have hnames : HandleNames (fieldOfHandle "model:prompt-handle") "prompt" := by
    rw [← namesField_iff]
    decide
  have hcodes : (edgeIssues .builtin (flowSnapshot (wiredFlow "model:prompt-handle"))
      (.ofValue 0 (wiredEdge "model:prompt-handle"))).map (·.code) = [.invalidEdgeTargetHandle] := by
    decide +kernel
  have hends : (flowSnapshot (wiredFlow "model:prompt-handle")).error? .builtin {} = none := by
    decide +kernel
  have hreport : lint .builtin {} (wiredFlow "model:prompt-handle") =
      .ok ((flowSnapshot (wiredFlow "model:prompt-handle")).issues .builtin {}) := by
    rw [lint_eq_snapshot ⟨rfl, rfl, rfl⟩]
    exact Snapshot.lint_eq_ok_iff.mpr ⟨hends, rfl⟩
  have hamong := edgeIssues_infix (k := 0) ⟨rfl, rfl, rfl⟩ rfl rfl hreport
  refine ⟨feeds_wiredFlow (by decide) hnames, by decide +kernel, hcodes, _, hreport, ?_⟩
  have hcode : .invalidEdgeTargetHandle ∈ (edgeIssues .builtin
      (flowSnapshot (wiredFlow "model:prompt-handle"))
      (.ofValue 0 (wiredEdge "model:prompt-handle"))).map (·.code) := by
    rw [hcodes]
    exact List.mem_singleton_self _
  obtain ⟨i, hi, hcode⟩ := List.mem_map.mp hcode
  exact ⟨i, hamong.subset hi, hcode⟩

end WorkflowCheck
