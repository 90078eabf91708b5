import WorkflowCheck.Proofs.Lint.Overlap
import WorkflowCheck.Proofs.Lint.Reported

/-!
# Snapshots that are alike

Two snapshots may differ only in what a change of nodes evens out (`Snapshot.Alike`).  If the change keeps
the heads of nodes (`SameHead`), the two end a run for the same reason or both do not, and have the same
overlaps and the same issues of the graph; if it keeps the handles too, they have the same issues of edges.
Of the issues of nodes only those of their form are left to compare (`nodesIssues_alike`).
-/

namespace WorkflowCheck

/-! ### Heads -/

/-- Two nodes agree but for their fields and where these are. -/
structure SameHead (m n : RawNode) : Prop where
  index : m.index = n.index
  id : m.id = n.id
  type : m.type = n.type
  position : m.position = n.position
  version : m.version = n.version

section Heads

variable {m m' n n' : RawNode}

theorem SameHead.refl (n : RawNode) : SameHead n n :=
  ⟨rfl, rfl, rfl, rfl, rfl⟩

theorem SameHead.place_eq (h : SameHead m n) : m.place = n.place := by
  rw [RawNode.place, RawNode.place, h.position]

theorem SameHead.coordinates?_eq (h : SameHead m n) : m.coordinates? = n.coordinates? := by
  rw [RawNode.coordinates?, RawNode.coordinates?, h.place_eq]

theorem reportsPair_congr (hm : SameHead m m') (hn : SameHead n n') : reportsPair m n = reportsPair m' n' := by
  rw [reportsPair, reportsPair, hm.index, hn.index, hn.id]

theorem clashFrom?_congr (hm : SameHead m m') (hn : SameHead n n') : clashFrom? m n = clashFrom? m' n' := by
  have hissue : ∀ id, overlapIssue id n = overlapIssue id n' := by
    intro id
    rw [overlapIssue, overlapIssue, hn.id, hn.index]
  have hclash : clash m n = clash m' n' := by
    rw [clash, clash, lieOver, lieOver, hm.id, hn.id, hm.coordinates?_eq, hn.coordinates?_eq]
  rw [clashFrom?, clashFrom?, hm.id, reportsPair_congr hm hn, hclash]
  simp only [hissue]

end Heads

/-! ### Snapshots up to a change -/

/-- The two snapshots have the same edges, and after a change the same nodes, and look up the same. -/
structure Snapshot.Alike (change : RawNode → RawNode) (s s' : Snapshot) : Prop where
  nodes : s.nodes.map change = s'.nodes.map change
  edges : s.edges = s'.edges
  found : ∀ id, (s.node? id).map change = (s'.node? id).map change
  fed : ∀ id field, isConnected s id field = isConnected s' id field

section Alike

variable {change : RawNode → RawNode} {r : Registry} {o : Options} {s s' : Snapshot}

theorem Snapshot.Alike.refl (s : Snapshot) : s.Alike change s :=
  ⟨rfl, rfl, fun _ => rfl, fun _ _ => rfl⟩

/-- A list that is made of the nodes one by one is the same, if the change does not matter for any. -/
theorem Snapshot.Alike.filterMap_nodes {α : Type} (h : s.Alike change s') {f : RawNode → Option α}
    (hf : ∀ n, f (change n) = f n) : s.nodes.filterMap f = s'.nodes.filterMap f := by
  have hchange : ∀ t : Snapshot, t.nodes.filterMap f = (t.nodes.map change).filterMap f := by
    intro t
    rw [List.filterMap_map]
    exact List.filterMap_congr fun n _ => (hf n).symm
  rw [hchange s, hchange s', h.nodes]

/-- A node lies over the same others. -/
theorem overlapIssues_alike (hc : ∀ n, SameHead (change n) n) (h : s.Alike change s') {n : RawNode}
    {id : String} (hid : n.id = some id) : overlapIssues s n id = overlapIssues s' (change n) id := by
  have hown : ∀ (t : Snapshot) {m : RawNode}, m.id = some id →
      overlapIssues t m id = t.nodes.filterMap (clashFrom? m) := by
    intro t m hm
    rw [← nodeOverlaps_eq, nodeOverlaps, hm]
  rw [hown s hid, hown s' ((hc n).id.trans hid),
    h.filterMap_nodes fun other => clashFrom?_congr (.refl n) (hc other)]
  exact List.filterMap_congr fun other _ => (clashFrom?_congr (hc n) (.refl other)).symm

theorem graphIssues_alike (hc : ∀ n, SameHead (change n) n) (h : s.Alike change s') :
    graphIssues s = graphIssues s' := by
  have hlength := congrArg List.length h.nodes
  rw [List.length_map, List.length_map] at hlength
  exact graphIssues_congr hlength (h.filterMap_nodes fun n => (hc n).id) h.edges

/-- The edges meet the same handles, if the change keeps those of every node. -/
theorem flatMap_edgeIssues_alike (h : s.Alike change s')
    (hout : ∀ n, outputHandles r n = outputHandles r (change n))
    (hin : ∀ n, inputHandles r n = inputHandles r (change n)) :
    s.edges.flatMap (edgeIssues r s) = s'.edges.flatMap (edgeIssues r s') := by
  rw [h.edges]
  refine List.flatMap_congr fun e _ => ?_
  rw [edgeIssues, edgeIssues, danglingIssues_congr h.found rfl, danglingIssues_congr h.found rfl,
    handleIssues_congr h.found rfl _ _ hout, handleIssues_congr h.found rfl _ _ hin]

/-- What is kept of the issues of all nodes does not depend on the change, if what is kept of the form of
each node does not. -/
theorem nodesIssues_alike (keep : List Issue → List Issue)
    (hkeep : ∀ xs ys, keep (xs ++ ys) = keep xs ++ keep ys) (hc : ∀ n, SameHead (change n) n)
    (h : s.Alike change s')
    (hform : ∀ repeated n id,
      keep (formIssues r o s' repeated (change n) id) = keep (formIssues r o s repeated n id)) :
    ∀ (seen : List String) (ns : List RawNode),
      keep (nodesIssues r o s' seen (ns.map change)) = keep (nodesIssues r o s seen ns)
  | _, [] => rfl
  | seen, n :: ns => by
    rw [List.map_cons, nodesIssues, nodesIssues, hkeep, hkeep, (hc n).id,
      nodesIssues_alike keep hkeep hc h hform _ ns]
    refine congrArg (· ++ _) ?_
    cases hid : n.id with
    | none =>
      have hnameless : namelessIssue (change n) = namelessIssue n := by
        rw [namelessIssue, namelessIssue, (hc n).index]
      rw [nodeIssues_of_no_id hid, nodeIssues_of_no_id ((hc n).id.trans hid), hnameless]
    | some id =>
      have hversion : versionIssues o (change n) id = versionIssues o n id := by
        rw [versionIssues, versionIssues, (hc n).version]
      rw [nodeIssues_of_id hid, nodeIssues_of_id ((hc n).id.trans hid), ← overlapIssues_alike hc h hid,
        hversion, hkeep, hkeep, hkeep, hkeep, hform]

/-! ### What ends a run -/

theorem meetsOversized_alike (hc : ∀ n, SameHead (change n) n) (h : s.Alike change s') (n : RawNode) :
    s.meetsOversized (change n) = s'.meetsOversized n := by
  have hothers : ∀ t : Snapshot, t.nodes.any (fun other => reportsPair n other && other.place == .oversized) =
      (t.nodes.map change).any fun other => reportsPair n other && other.place == .oversized := by
    intro t
    rw [List.any_map]
    refine congrArg t.nodes.any (funext fun other => ?_)
    rw [Function.comp_apply, reportsPair_congr (.refl n) (hc other), (hc other).place_eq]
  have hfrom : (fun other : RawNode => reportsPair (change n) other && other.place == .oversized) =
      fun other => reportsPair n other && other.place == .oversized :=
    funext fun other => congrArg (· && _) (reportsPair_congr (hc n) (.refl other))
  rw [Snapshot.meetsOversized, Snapshot.meetsOversized, (hc n).coordinates?_eq, hfrom, hothers s, hothers s',
    h.nodes]

theorem nodeError?_alike (hc : ∀ n, SameHead (change n) n) (h : s.Alike change s') (n : RawNode) :
    s.nodeError? r o (change n) = s'.nodeError? r o n := by
  have htype : hasUnknownType r (change n) = hasUnknownType r n := by
    rw [hasUnknownType, hasUnknownType, Registry.contractOf?, Registry.contractOf?, (hc n).type]
  have hversion : hasUnknownVersion (change n) = hasUnknownVersion n := by
    rw [hasUnknownVersion, hasUnknownVersion, (hc n).version]
  rw [Snapshot.nodeError?, Snapshot.nodeError?, (hc n).id, htype, (hc n).type, (hc n).place_eq, hversion,
    (hc n).version, meetsOversized_alike hc h]

theorem error?_alike (hc : ∀ n, SameHead (change n) n) (h : s.Alike change s') :
    s.error? r o = s'.error? r o := by
  have hnode : s.nodeError? r o = s'.nodeError? r o := by
    funext n
    rw [← nodeError?_alike hc (.refl s), nodeError?_alike hc h]
  rw [Snapshot.error?, Snapshot.error?, ← List.head?_filterMap, ← List.head?_filterMap,
    h.filterMap_nodes fun n => nodeError?_alike hc (.refl s) n, hnode]

end Alike

end WorkflowCheck
