import WorkflowCheck.Proofs.Lint.Handles
import WorkflowCheck.Proofs.Lint.Reported

/-!
# A run node by node

A run goes through the nodes of a flow in turn, with the ids that it has met and the index of all edges.
`nodeBlocks` keeps apart what it does at each of them, and a report is these blocks one after the other
(`lint_eq_inTurn`).  Before one node is run only the nodes are checked, and then the block of a node depends
on little else: on whether an earlier node has its id, and on which fields edges lead into under that id
(`AgreesAt.nodeBlocks_eq`).  So what is known of a node stays, whatever comes behind it (`lint_node_local`).
-/

namespace WorkflowCheck

open scoped List

/-! ### Blocks in turn -/

/-- What blocks come to one after the other: all their issues, or the first error. -/
def inTurn : List (Except RunError (List Issue)) → Except RunError (List Issue)
  | [] => .ok []
  | .error e :: _ => .error e
  | .ok issues :: blocks => (inTurn blocks).map (issues ++ ·)

/-- More blocks add their issues behind those of the first ones, unless one of these is an error. -/
theorem inTurn_append (blocks blocks' : List (Except RunError (List Issue))) :
    inTurn (blocks ++ blocks') =
      (inTurn blocks).bind fun issues => (inTurn blocks').map (issues ++ ·) := by
  induction blocks with
  | nil =>
    show inTurn blocks' = (inTurn blocks').map ([] ++ ·)
    cases inTurn blocks' <;> rfl
  | cons block blocks ih =>
    cases block with
    | error e => rfl
    | ok first =>
      rw [List.cons_append, inTurn, ih, inTurn]
      cases inTurn blocks with
      | error e => rfl
      | ok rest =>
        cases inTurn blocks' with
        | error e => rfl
        | ok more => exact congrArg Except.ok (List.append_assoc first rest more).symm

theorem inTurn_ok_cons_eq_ok_iff {first issues : List Issue}
    {blocks : List (Except RunError (List Issue))} :
    inTurn (.ok first :: blocks) = .ok issues ↔
      ∃ rest, inTurn blocks = .ok rest ∧ first ++ rest = issues := by
  rw [inTurn]
  cases inTurn blocks with
  | error e => exact iff_of_false (by rintro ⟨⟩) (by rintro ⟨_, ⟨⟩, _⟩)
  | ok rest => simp [Except.map]

/-- Where some issues come of blocks in turn, each block is a part of them. -/
theorem exists_infix_of_inTurn :
    ∀ {blocks : List (Except RunError (List Issue))} {issues : List Issue} {k : Nat},
      inTurn blocks = .ok issues → k < blocks.length →
        ∃ block, blocks[k]? = some (.ok block) ∧ block <:+: issues
  | .ok first :: blocks, _, 0, h, _ => by
    obtain ⟨rest, -, rfl⟩ := inTurn_ok_cons_eq_ok_iff.mp h
    exact ⟨first, rfl, (List.prefix_append first rest).isInfix⟩
  | .ok first :: blocks, _, k + 1, h, hk => by
    obtain ⟨rest, hrest, rfl⟩ := inTurn_ok_cons_eq_ok_iff.mp h
    obtain ⟨block, hblock, hinfix⟩ := exists_infix_of_inTurn hrest (Nat.lt_of_succ_lt_succ hk)
    exact ⟨block, hblock, hinfix.trans (List.suffix_append first rest).isInfix⟩

/-! ### The blocks of a run -/

/-- What a run does at a node: it ends there without a report, or goes on with the issues of the node. -/
def nodeBlock (r : Registry) (o : Options) (s : Snapshot) (repeated : Bool) (n : RawNode) :
    Except RunError (List Issue) :=
  match s.nodeError? r o n with
  | some e => .error e
  | none => .ok (nodeIssues r o s repeated n)

/-- What a run does at each of some nodes behind others with the ids `seen`. -/
def blocksBehind (r : Registry) (o : Options) (s : Snapshot) :
    List String → List RawNode → List (Except RunError (List Issue))
  | _, [] => []
  | seen, n :: ns =>
    nodeBlock r o s (n.id.any (· ∈ seen)) n :: blocksBehind r o s (n.id.toList ++ seen) ns

/-- What a run over a flow does at each of its nodes. -/
def nodeBlocks (r : Registry) (o : Options) (flow : Value) : List (Except RunError (List Issue)) :=
  blocksBehind r o (flowSnapshot flow) [] (flowSnapshot flow).nodes

section Snapshots

variable {r : Registry} {o : Options} {s : Snapshot}

theorem inTurn_blocksBehind (r : Registry) (o : Options) (s : Snapshot) :
    ∀ (seen : List String) (ns : List RawNode), inTurn (blocksBehind r o s seen ns) =
      match ns.findSome? (s.nodeError? r o) with
      | some e => .error e
      | none => .ok (nodesIssues r o s seen ns)
  | _, [] => rfl
  | seen, n :: ns => by
    rw [blocksBehind, nodeBlock, List.findSome?_cons]
    cases s.nodeError? r o n with
    | some e => rfl
    | none =>
      dsimp only
      rw [inTurn, inTurn_blocksBehind r o s (n.id.toList ++ seen) ns, nodesIssues]
      cases ns.findSome? (s.nodeError? r o) <;> rfl

/-- The block at a place is that of the node there, and the ids before it count. -/
theorem getElem?_blocksBehind :
    ∀ (seen : List String) (ns : List RawNode) (k : Nat), (blocksBehind r o s seen ns)[k]? =
      ns[k]?.map fun n => nodeBlock r o s (n.id.any (· ∈ (ns.take k).filterMap (·.id) ++ seen)) n
  | _, [], _ => rfl
  | _, _ :: _, 0 => rfl
  | seen, n :: ns, k + 1 => by
    have hids : ∀ id, (id ∈ (ns.take k).filterMap (·.id) ++ (n.id.toList ++ seen)) ↔
        id ∈ ((n :: ns).take (k + 1)).filterMap (·.id) ++ seen := by
      intro id
      rw [List.take_succ_cons, List.filterMap_cons]
      cases n.id <;> simp [or_left_comm]
    rw [blocksBehind, List.getElem?_cons_succ, List.getElem?_cons_succ, getElem?_blocksBehind]
    simp only [hids]

end Snapshots

section Raw

variable {r : Registry} {o : Options} {flow : Value} {k : Nat}

/-- A run is its blocks in turn, and behind them the issues of the edges and of the graph. -/
theorem lint_eq_inTurn (h : HasLists flow) :
    lint r o flow = (inTurn (nodeBlocks r o flow)).map (· ++
      if o.checksWholeFlow then (flowSnapshot flow).edges.flatMap (edgeIssues r (flowSnapshot flow))
        ++ graphIssues (flowSnapshot flow) else []) := by
  rw [lint_eq_snapshot h, Snapshot.lint, nodeBlocks, inTurn_blocksBehind, Snapshot.error?]
  cases (flowSnapshot flow).nodes.findSome? ((flowSnapshot flow).nodeError? r o) <;> rfl

/-- Some node before a place has an id. -/
def IsRepeated (flow : Value) (k : Nat) (id : String) : Prop :=
  ∃ m ∈ (flowNodes flow).take k, m.Names "id" id

theorem getElem?_nodeBlocks {n : Value} (h : (flowNodes flow)[k]? = some n) :
    ∃ repeated, (nodeBlocks r o flow)[k]? =
        some (nodeBlock r o (flowSnapshot flow) repeated (RawNode.ofValue k n)) ∧
      (repeated = true ↔ ∃ id, n.Names "id" id ∧ IsRepeated flow k id) := by
  have hnode : (flowSnapshot flow).nodes[k]? = some (RawNode.ofValue k n) := by
    show (readIndexed RawNode.ofValue (flowNodes flow))[k]? = _
    rw [readIndexed, List.getElem?_mapIdx, h, Option.map_some]
  have hearlier : ∀ id, id ∈ ((flowSnapshot flow).nodes.take k).filterMap (·.id) ++ [] ↔
      IsRepeated flow k id := by
    intro id
    show id ∈ ((readIndexed RawNode.ofValue (flowNodes flow)).take k).filterMap (·.id) ++ [] ↔ _
    rw [List.append_nil, List.mem_filterMap, take_readIndexed]
    exact exists_mem_readIndexed fun i v => Value.filledText?_field_iff
  rw [nodeBlocks, getElem?_blocksBehind, hnode, Option.map_some]
  refine ⟨_, rfl, ?_⟩
  rw [Option.any_eq_true]
  refine exists_congr fun id => and_congr Value.filledText?_field_iff ?_
  rw [decide_eq_true_iff, hearlier]

theorem length_blocksBehind {s : Snapshot} :
    ∀ (seen : List String) (ns : List RawNode), (blocksBehind r o s seen ns).length = ns.length
  | _, [] => rfl
  | _, _ :: ns => congrArg (· + 1) (length_blocksBehind _ ns)

theorem length_nodeBlocks : (nodeBlocks r o flow).length = (flowNodes flow).length :=
  (length_blocksBehind [] _).trans List.length_mapIdx

/-- A run that ends with a report has a block for each node in it. -/
theorem exists_block_infix {report : Report} (hlists : HasLists flow) (hk : k < (flowNodes flow).length)
    (hreport : lint r o flow = .ok report) :
    ∃ block, (nodeBlocks r o flow)[k]? = some (.ok block) ∧ block <:+: report := by
  rw [lint_eq_inTurn hlists] at hreport
  cases hissues : inTurn (nodeBlocks r o flow) with
  | error e =>
    rw [hissues] at hreport
    cases hreport
  | ok issues =>
    rw [hissues] at hreport
    cases hreport
    obtain ⟨block, hblock, hinfix⟩ :=
      exists_infix_of_inTurn hissues (length_nodeBlocks (r := r) (o := o) ▸ hk)
    exact ⟨block, hblock, hinfix.trans (List.prefix_append issues _).isInfix⟩

end Raw

/-! ### What the block of a node depends on -/

/-- Some edge into a node leads to a field, which is its handle without the suffix. -/
def IsEntered (flow : Value) (id field : String) : Prop :=
  ∃ e ∈ flowEdges flow, e.Names "target" id ∧
    ∃ handle, e.Names "targetHandle" handle ∧ fieldOfHandle handle = field

/-- Two flows have the same node at a place.  An earlier node has its id in both or in neither, and edges
into it lead to the same fields. -/
structure AgreesAt (flow flow' : Value) (k : Nat) (n : Value) : Prop where
  node : (flowNodes flow)[k]? = some n
  node' : (flowNodes flow')[k]? = some n
  repeated : ∀ id, n.Names "id" id → (IsRepeated flow k id ↔ IsRepeated flow' k id)
  entered : ∀ id, n.Names "id" id → ∀ field, IsEntered flow id field ↔ IsEntered flow' id field

section Local

variable {r : Registry} {o : Options} {flow flow' : Value} {k : Nat}

theorem isFed_iff {id field : String} :
    IsFed flow id field ↔ ∃ inner, IsEntered flow id inner ∧ HandleNames inner field := by
  constructor
  · rintro ⟨e, he, htarget, handle, hhandle, hnames⟩
    exact ⟨_, ⟨e, he, htarget, handle, hhandle, rfl⟩, hnames⟩
  · rintro ⟨_, ⟨e, he, htarget, handle, hhandle, rfl⟩, hnames⟩
    exact ⟨e, he, htarget, handle, hhandle, hnames⟩

theorem isConnected_congr {id : String}
    (h : ∀ field, IsEntered flow id field ↔ IsEntered flow' id field) (field : String) :
    isConnected (flowSnapshot flow) id field = isConnected (flowSnapshot flow') id field := by
  rw [Bool.eq_iff_iff, isConnected_iff, isConnected_iff, isFed_iff, isFed_iff]
  exact exists_congr fun inner => and_congr_left' (h inner)

/-- In a run over nodes alone the block of a node depends on which of its fields are fed. -/
theorem nodeBlock_congr {s s' : Snapshot} {n : RawNode} {repeated : Bool} (ho : o.mode = .node)
    (h : ∀ id, n.id = some id → ∀ field, isConnected s id field = isConnected s' id field) :
    nodeBlock r o s repeated n = nodeBlock r o s' repeated n := by
  have hwhole : o.checksWholeFlow = false := by
    rw [Options.checksWholeFlow, ho]
    rfl
  have herror : s.nodeError? r o n = s'.nodeError? r o n := by
    simp only [Snapshot.nodeError?, hwhole, Bool.false_and]
  have hissues : nodeIssues r o s repeated n = nodeIssues r o s' repeated n := by
    cases hid : n.id with
    | none => rw [nodeIssues_of_no_id hid, nodeIssues_of_no_id hid]
    | some id =>
      rw [nodeIssues_of_id hid, nodeIssues_of_id hid, formIssues_congr (h id hid), hwhole,
        if_neg Bool.false_ne_true, if_neg Bool.false_ne_true]
  rw [nodeBlock, nodeBlock, herror, hissues]

/-- Where two flows agree the run does the same. -/
theorem AgreesAt.nodeBlocks_eq {n : Value} (ho : o.mode = .node) (h : AgreesAt flow flow' k n) :
    (nodeBlocks r o flow)[k]? = (nodeBlocks r o flow')[k]? := by
  obtain ⟨repeated, hblock, hrepeated⟩ := getElem?_nodeBlocks (r := r) (o := o) h.node
  obtain ⟨repeated', hblock', hrepeated'⟩ := getElem?_nodeBlocks (r := r) (o := o) h.node'
  have hsame : repeated = repeated' := by
    rw [Bool.eq_iff_iff, hrepeated, hrepeated']
    exact exists_congr fun id => and_congr_right (h.repeated id)
  rw [hblock, hblock', hsame]
  refine congrArg some (nodeBlock_congr ho fun id hid => isConnected_congr (h.entered id ?_))
  exact Value.filledText?_field_iff.mp hid

/-- A flow agrees with one that has further nodes behind its own. -/
theorem agreesAt_of_append {n : Value} {more : List Value} (hk : (flowNodes flow)[k]? = some n)
    (hnodes : flowNodes flow' = flowNodes flow ++ more) (hedges : flowEdges flow' = flowEdges flow) :
    AgreesAt flow flow' k n where
  node := hk
  node' := by
    obtain ⟨hlt, -⟩ := List.getElem?_eq_some_iff.mp hk
    rw [hnodes, List.getElem?_append_left hlt, hk]
  repeated id _ := by
    obtain ⟨hlt, -⟩ := List.getElem?_eq_some_iff.mp hk
    rw [IsRepeated, IsRepeated, hnodes, List.take_append_of_le_length hlt.le]
  entered id _ field := by rw [IsEntered, IsEntered, hedges]

/-- The blocks of further nodes come behind those of the first ones. -/
theorem nodeBlocks_prefix {more : List Value} (ho : o.mode = .node)
    (hnodes : flowNodes flow' = flowNodes flow ++ more) (hedges : flowEdges flow' = flowEdges flow) :
    nodeBlocks r o flow <+: nodeBlocks r o flow' := by
  rw [List.prefix_iff_getElem?]
  intro k hk
  have hlt : k < (flowNodes flow).length := length_nodeBlocks (r := r) (o := o) ▸ hk
  have hagree := agreesAt_of_append (List.getElem?_eq_getElem hlt) hnodes hedges
  rw [← hagree.nodeBlocks_eq ho, List.getElem?_eq_getElem hk]

theorem lint_eq_inTurn_of_node (ho : o.mode = .node) (h : HasLists flow) :
    lint r o flow = inTurn (nodeBlocks r o flow) := by
  have hwhole : ¬ o.checksWholeFlow = true := by
    rw [checksWholeFlow_iff, ho]
    rintro ⟨⟩
  simp only [lint_eq_inTurn h, if_neg hwhole, List.append_nil]
  cases inTurn (nodeBlocks r o flow) <;> rfl

end Local

/-- **What a run finds at a node is local.**  A run over nodes alone does the same at a place of two flows
that have the same node there, an earlier node with its id in both or in neither, and edges into it that
lead to the same fields.  The run is what it does at the nodes one after the other, so with further nodes
behind those of a flow it ends with the same error, or its report goes on where the shorter one ends. -/
theorem lint_node_local (r : Registry) (o : Options) (ho : o.mode = .node) :
    (∀ flow flow' k n, AgreesAt flow flow' k n →
      (nodeBlocks r o flow)[k]? = (nodeBlocks r o flow')[k]?) ∧
    (∀ flow, HasLists flow → (nodeBlocks r o flow).length = (flowNodes flow).length ∧
      lint r o flow = inTurn (nodeBlocks r o flow)) ∧
    ∀ flow flow' more, HasLists flow → HasLists flow' → flowNodes flow' = flowNodes flow ++ more →
      flowEdges flow' = flowEdges flow → ∃ added,
        nodeBlocks r o flow' = nodeBlocks r o flow ++ added ∧
        (∀ e, lint r o flow = .error e → lint r o flow' = .error e) ∧
        ∀ report, lint r o flow = .ok report → lint r o flow' = (inTurn added).map (report ++ ·) := by
  refine ⟨fun flow flow' k n h => h.nodeBlocks_eq ho, fun flow hlists => ?turns, ?grows⟩
  case turns => exact ⟨length_nodeBlocks, lint_eq_inTurn_of_node ho hlists⟩
  case grows =>
    intro flow flow' more hlists hlists' hnodes hedges
    obtain ⟨added, hadded⟩ := nodeBlocks_prefix (r := r) ho hnodes hedges
    have hlonger : lint r o flow' =
        (lint r o flow).bind fun report => (inTurn added).map (report ++ ·) := by
      rw [lint_eq_inTurn_of_node ho hlists, lint_eq_inTurn_of_node ho hlists', ← hadded, inTurn_append]
    refine ⟨added, hadded.symm, fun e he => ?_, fun report hreport => ?_⟩
    · rw [hlonger, he]
      rfl
    · rw [hlonger, hreport]
      rfl

/-- Some nodes, and edges to the prompt of a model by some handles. -/
def wiredNodes (nodes : List Value) (handles : List String) : Value :=
  .record [("nodes", .arr nodes), ("edges", .arr (handles.map wiredEdge))]

theorem isEntered_wiredNodes {nodes : List Value} {handles : List String} {field : String} :
    IsEntered (wiredNodes nodes handles) "model" field ↔
      ∃ handle ∈ handles, handle ≠ "" ∧ fieldOfHandle handle = field := by
  constructor
  · rintro ⟨e, he, -, handle, hhandle, hfield⟩
    obtain ⟨written, hwritten, rfl⟩ := List.mem_map.mp he
    obtain rfl : written = handle := Value.str.inj hhandle.1
    exact ⟨written, hwritten, hhandle.2, hfield⟩
  · rintro ⟨handle, hhandle, hne, hfield⟩
    exact ⟨wiredEdge handle, List.mem_map_of_mem hhandle, ⟨rfl, by decide⟩, handle, ⟨rfl, hne⟩, hfield⟩

/-- The model is judged alike behind whatever node without its id, and by whichever of the two handles the
edges enter it. -/
theorem wiredNodes_local :
    (nodeBlocks .builtin { mode := .node } (wiredNodes [.null, modelNode] ["prompt-handle"]))[1]? =
        (nodeBlocks .builtin { mode := .node }
          (wiredNodes [.str "listener", modelNode] ["prompt", "prompt-handle"]))[1]? ∧
      lint .builtin { mode := .node } (wiredNodes [.null, modelNode] []) =
        inTurn (nodeBlocks .builtin { mode := .node } (wiredNodes [.null, modelNode] [])) ∧
      ∃ report added, lint .builtin { mode := .node } (wiredNodes [.null] []) = .ok report ∧
        lint .builtin { mode := .node } (wiredNodes [.null, modelNode] []) =
          (inTurn added).map (report ++ ·) := by
  obtain ⟨hlocal, hturns, hgrows⟩ := lint_node_local .builtin { mode := .node } rfl
  have hfirst : ∀ first : Value, first.field "id" = .null →
      ∀ handles, ¬ IsRepeated (wiredNodes [first, modelNode] handles) 1 "model" := by
    rintro first hnull handles ⟨m, hm, hnames⟩
    cases List.mem_singleton.mp hm
    cases hnull.symm.trans hnames.1
  refine ⟨hlocal _ _ 1 modelNode ⟨rfl, rfl, fun id hid => ?repeated, fun id hid field => ?entered⟩,
    (hturns _ ⟨rfl, rfl, rfl⟩).2, ?grows⟩
  case repeated =>
    obtain rfl : "model" = id := Value.str.inj hid.1
    exact iff_of_false (hfirst .null rfl _) (hfirst (.str "listener") rfl _)
  case entered =>
    obtain rfl : "model" = id := Value.str.inj hid.1
    rw [isEntered_wiredNodes, isEntered_wiredNodes]
    have hwhole : fieldOfHandle "prompt-handle" = fieldOfHandle "prompt" := by decide
    simp [hwhole]
  case grows =>
    obtain ⟨added, -, -, hreport⟩ := hgrows (wiredNodes [.null] []) (wiredNodes [.null, modelNode] [])
      [modelNode] ⟨rfl, rfl, rfl⟩ ⟨rfl, rfl, rfl⟩ rfl rfl
    have hends : lint .builtin { mode := .node } (wiredNodes [.null] []) =
        .ok [namelessIssue (.ofValue 0 .null)] := by decide +kernel
    exact ⟨_, added, hends, hreport _ hends⟩

end WorkflowCheck
