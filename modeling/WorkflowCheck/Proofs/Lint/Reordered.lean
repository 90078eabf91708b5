import WorkflowCheck.Proofs.Graph.Circles
import WorkflowCheck.Proofs.Lint.Overlap
import WorkflowCheck.Proofs.Lint.Reported

/-!
# Snapshots in two orders

A flow may list its nodes and its edges in any order.  The order shows in the places that messages name, in
which node of a pair an overlap is reported from, and in which circles are met first.
`Snapshot.Reordered` relates the snapshots of two orders, and of both each rule reports the same codes,
each as often (`without_circles_perm`), with circles of both or of neither (`exists_circle_reordered`).
-/

namespace WorkflowCheck

open scoped List

/-! ### Snapshots in two orders -/

namespace RawNode

/-- The node as if it were the first one of its list. -/
def unnumbered (n : RawNode) : RawNode :=
  { n with index := 0 }

end RawNode

namespace RawEdge

/-- The edge as if it were the first one of its list. -/
def unnumbered (e : RawEdge) : RawEdge :=
  { e with index := 0 }

end RawEdge

namespace Snapshot

/-- Two snapshots have the same nodes and edges, in whatever order, and look up the same in them. -/
structure Reordered (s s' : Snapshot) : Prop where
  nodes : s.nodes.map RawNode.unnumbered ~ s'.nodes.map RawNode.unnumbered
  edges : s.edges.map RawEdge.unnumbered ~ s'.edges.map RawEdge.unnumbered
  found : ∀ id, (s.node? id).map RawNode.unnumbered = (s'.node? id).map RawNode.unnumbered
  fed : ∀ id field, isConnected s id field = isConnected s' id field

/-- Each node has a place behind those before it, and no id that one of them has. -/
structure Numbered (s : Snapshot) : Prop where
  places : s.nodes.Pairwise fun m n => m.index < n.index
  ids : s.nodes.Pairwise fun m n => ∀ id, m.id = some id → n.id ≠ some id

namespace Reordered

variable {s s' : Snapshot}

theorem refl (s : Snapshot) : s.Reordered s :=
  ⟨.refl _, .refl _, fun _ => rfl, fun _ _ => rfl⟩

end Reordered

end Snapshot

/-- What elements give that are the same up to a key is a permutation, if it depends on the key alone. -/
theorem flatMap_perm_of_map {α β : Type} {key : α → α} {f g : α → List β} {xs ys : List α}
    (h : xs.map key ~ ys.map key) (hf : ∀ x, f x = g (key x)) (hg : ∀ y, g y = g (key y)) :
    xs.flatMap f ~ ys.flatMap g := by
  have hxs : xs.flatMap f = (xs.map key).flatMap g := by
    rw [List.flatMap_map]
    exact List.flatMap_congr fun x _ => hf x
  have hys : ys.flatMap g = (ys.map key).flatMap g := by
    rw [List.flatMap_map]
    exact List.flatMap_congr fun y _ => hg y
  rw [hxs, hys]
  exact h.flatMap_right g

/-! ### Nodes -/

section Nodes

variable {r : Registry} {o : Options} {s s' : Snapshot} {n : RawNode}

/-- Issues of a node on its own, as it were the only one with its id. -/
def ownIssues (r : Registry) (o : Options) (s : Snapshot) (n : RawNode) : List Issue :=
  match n.id with
  | none => [namelessIssue n]
  | some id => formIssues r o s false n id ++ versionIssues o n id

theorem nodeIssues_eq (n : RawNode) :
    nodeIssues r o s false n = ownIssues r o s n ++ if o.checksWholeFlow then nodeOverlaps s n else [] := by
  rw [ownIssues, nodeOverlaps]
  cases hid : n.id with
  | none => rw [nodeIssues_of_no_id hid, ite_self, List.append_nil]
  | some id => exact nodeIssues_of_id hid

/-- Nodes with ids of their own are reported one by one. -/
theorem nodesIssues_of_distinct :
    ∀ {seen : List String} {ns : List RawNode},
      (ns.Pairwise fun m n => ∀ id, m.id = some id → n.id ≠ some id) →
      (∀ n ∈ ns, ∀ id, n.id = some id → id ∉ seen) →
      nodesIssues r o s seen ns = ns.flatMap (nodeIssues r o s false)
  | _, [], _, _ => rfl
  | seen, n :: ns, hdistinct, hnew => by
    obtain ⟨hfirst, hrest⟩ := List.pairwise_cons.mp hdistinct
    obtain ⟨hn, hns⟩ := List.forall_mem_cons.mp hnew
    have hfresh : n.id.any (· ∈ seen) = false := by
      cases hid : n.id with
      | none => rfl
      | some id => exact decide_eq_false (hn id hid)
    rw [nodesIssues, hfresh, List.flatMap_cons, nodesIssues_of_distinct hrest]
    intro m hm id hid hmem
    rcases List.mem_append.mp hmem with hmem | hmem
    · exact hfirst m hm id (Option.mem_toList.mp hmem) hid
    · exact hns m hm id hid hmem

/-- What a node is reported with on its own does not depend on any order. -/
theorem ownIssues_code (h : s.Reordered s') (n : RawNode) :
    (ownIssues r o s n).map (·.code) = (ownIssues r o s' n.unnumbered).map (·.code) := by
  have hid : n.unnumbered.id = n.id := rfl
  rw [ownIssues, ownIssues, hid]
  cases n.id with
  | none => rfl
  | some id =>
    show (formIssues r o s false n id ++ versionIssues o n id).map _ =
      (formIssues r o s' false n id ++ versionIssues o n id).map _
    rw [formIssues_congr (h.fed id)]

theorem nodeOverlaps_bears : ∀ i ∈ nodeOverlaps s n, i.Bears [.nodePositionOverlap] := by
  rw [nodeOverlaps]
  cases n.id with
  | none => exact List.forall_mem_nil _
  | some id => exact fun i hi => (overlapIssues_isOn i hi).bears

theorem flatMap_nodeOverlaps_bears :
    ∀ i ∈ s.nodes.flatMap (nodeOverlaps s), i.Bears [.nodePositionOverlap] := by
  intro i hi
  obtain ⟨n, -, hi⟩ := List.mem_flatMap.mp hi
  exact nodeOverlaps_bears i hi

/-- As many pairs overlap in any order. -/
theorem length_nodeOverlaps_perm
    (hnodes : s.nodes.map RawNode.unnumbered ~ s'.nodes.map RawNode.unnumbered)
    (hs : s.nodes.Pairwise fun m n => m.index < n.index)
    (hs' : s'.nodes.Pairwise fun m n => m.index < n.index) :
    (s.nodes.flatMap (nodeOverlaps s)).length = (s'.nodes.flatMap (nodeOverlaps s')).length := by
  have hcount : ∀ t : Snapshot, (pairs t.nodes).countP (fun p => clash p.1 p.2) =
      (pairs (t.nodes.map RawNode.unnumbered)).countP fun p => clash p.1 p.2 := by
    intro t
    rw [pairs_map, List.countP_map]
    rfl
  rw [length_flatMap_nodeOverlaps hs, length_flatMap_nodeOverlaps hs', hcount, hcount]
  exact countP_pairs_perm clash_comm hnodes

/-- The issues themselves name the two nodes in an order, so only their codes can be compared. -/
theorem nodeOverlaps_perm (h : s.Reordered s') (hs : s.Numbered) (hs' : s'.Numbered) :
    (s.nodes.flatMap (nodeOverlaps s)).map (·.code) ~
      (s'.nodes.flatMap (nodeOverlaps s')).map (·.code) := by
  have hcode : ∀ t : Snapshot, ∀ code ∈ (t.nodes.flatMap (nodeOverlaps t)).map (·.code),
      code = .nodePositionOverlap := by
    intro t
    rw [List.forall_mem_map]
    exact fun i hi => List.mem_singleton.mp (flatMap_nodeOverlaps_bears i hi).1
  rw [List.eq_replicate_of_mem (hcode s), List.eq_replicate_of_mem (hcode s'), List.length_map,
    List.length_map, length_nodeOverlaps_perm h.nodes hs.places hs'.places]

theorem nodesIssues_perm (h : s.Reordered s') (hs : s.Numbered) (hs' : s'.Numbered) :
    (nodesIssues r o s [] s.nodes).map (·.code) ~ (nodesIssues r o s' [] s'.nodes).map (·.code) := by
  -- node by node the overlaps differ between the orders, so they are taken out and compared as a whole
  have hsplit : ∀ t : Snapshot, t.Numbered → (nodesIssues r o t [] t.nodes).map (·.code) ~
      t.nodes.flatMap (fun n => (ownIssues r o t n).map (·.code)) ++
        if o.checksWholeFlow then (t.nodes.flatMap (nodeOverlaps t)).map (·.code) else [] := by
    intro t ht
    have hparts : nodesIssues r o t [] t.nodes = t.nodes.flatMap fun n =>
        ownIssues r o t n ++ if o.checksWholeFlow then nodeOverlaps t n else [] := by
      rw [nodesIssues_of_distinct ht.ids fun n _ id _ => List.not_mem_nil]
      exact List.flatMap_congr fun n _ => nodeIssues_eq n
    have hoverlaps : (t.nodes.flatMap fun n => if o.checksWholeFlow then nodeOverlaps t n else []) =
        if o.checksWholeFlow then t.nodes.flatMap (nodeOverlaps t) else [] := by
      split_ifs
      · rfl
      · exact List.flatMap_eq_nil_iff.mpr fun n _ => rfl
    rw [hparts]
    refine ((List.flatMap_append_perm t.nodes _ _).symm.map _).trans ?_
    rw [hoverlaps, List.map_append, List.map_flatMap, apply_ite (List.map _), List.map_nil]
  refine (hsplit s hs).trans (List.Perm.trans ?_ (hsplit s' hs').symm)
  refine List.Perm.append ?_ ?_
  · exact flatMap_perm_of_map h.nodes (ownIssues_code h) (ownIssues_code (.refl s'))
  · split_ifs
    · exact nodeOverlaps_perm h hs hs'
    · exact .nil

end Nodes

/-! ### Edges -/

section Edges

variable {r : Registry} {s s' : Snapshot} {code : IssueCode} {name : String}

theorem absentIssues_code (e : RawEdge) (part : Option String) :
    (absentIssues e part name code).map (·.code) =
      (absentIssues e.unnumbered part name code).map (·.code) := by
  rw [absentIssues, absentIssues]
  split_ifs <;> rfl

theorem edgeIssues_code (h : s.Reordered s') (e : RawEdge) :
    (edgeIssues r s e).map (·.code) = (edgeIssues r s' e.unnumbered).map (·.code) := by
  have hid : e.id = e.unnumbered.id := rfl
  simp only [edgeIssues, List.map_append]
  -- only the issues of absent parts name the place of the edge, and only in their messages
  rw [absentIssues_code e e.source, absentIssues_code e e.sourceHandle, absentIssues_code e e.target,
    absentIssues_code e e.targetHandle, danglingIssues_congr h.found hid e.source,
    danglingIssues_congr h.found hid e.target,
    handleIssues_congr h.found hid e.source e.sourceHandle fun n => rfl,
    handleIssues_congr h.found hid e.target e.targetHandle fun n => rfl]
  rfl

theorem flatMap_edgeIssues_perm (h : s.Reordered s') :
    (s.edges.flatMap (edgeIssues r s)).map (·.code) ~
      (s'.edges.flatMap (edgeIssues r s')).map (·.code) := by
  rw [List.map_flatMap, List.map_flatMap]
  exact flatMap_perm_of_map h.edges (edgeIssues_code h) (edgeIssues_code (.refl s'))

end Edges

/-! ### The graph -/

section Graph

variable {s s' : Snapshot}

theorem nodeIds_perm (h : s.Reordered s') : s.nodes.filterMap (·.id) ~ s'.nodes.filterMap (·.id) := by
  have hids : ∀ t : Snapshot, t.nodes.filterMap (·.id) =
      (t.nodes.map RawNode.unnumbered).filterMap (·.id) := by
    intro t
    rw [List.filterMap_map]
    rfl
  rw [hids, hids]
  exact h.nodes.filterMap _

theorem connectedIds_perm (h : s.Reordered s') : s.connectedIds ~ s'.connectedIds :=
  flatMap_perm_of_map h.edges (fun _ => rfl) fun _ => rfl

theorem isolationIssues_perm (h : s.Reordered s') : isolationIssues s ~ isolationIssues s' := by
  have hlength : s.nodes.length = s'.nodes.length := by
    have hmapped := h.nodes.length_eq
    rwa [List.length_map, List.length_map] at hmapped
  have hconnected : (fun id => decide (id ∉ s.connectedIds)) = fun id => decide (id ∉ s'.connectedIds) :=
    funext fun id => decide_eq_decide.mpr (not_congr (connectedIds_perm h).mem_iff)
  rw [isolationIssues, isolationIssues, hlength, hconnected]
  split_ifs
  · exact .nil
  · exact ((nodeIds_perm h).filter _).map _

theorem links_reordered (h : s.Reordered s') : s.Links = s'.Links := by
  have hlinks : ∀ t : Snapshot, ∀ a b, t.Links a b ↔
      ∃ e ∈ t.edges.map RawEdge.unnumbered, e.source = some a ∧ e.target = some b := by
    intro t a b
    simp only [List.mem_map, exists_exists_and_eq_and]
    exact Iff.rfl
  ext a b
  rw [hlinks, hlinks]
  exact exists_congr fun e => and_congr_left' h.edges.mem_iff

/-- A circle is met in any order or in none. -/
theorem cycleIssues_reordered (h : s.Reordered s') : cycleIssues s ≠ [] ↔ cycleIssues s' ≠ [] := by
  have hroots : ∀ t : Snapshot, cycleIssues t ≠ [] ↔
      ∃ id ∈ t.nodes.filterMap (·.id), ReachesCircle t.Links id := by
    intro t
    rw [t.cycleIssues_ne_nil_iff]
    constructor
    · rintro ⟨n, hn, id, hid, hcircle⟩
      exact ⟨id, Snapshot.mem_nodeIds.mpr ⟨n, hn, hid⟩, hcircle⟩
    · rintro ⟨id, hmem, hcircle⟩
      obtain ⟨n, hn, hid⟩ := Snapshot.mem_nodeIds.mp hmem
      exact ⟨n, hn, id, hid, hcircle⟩
  rw [hroots, hroots, links_reordered h]
  exact exists_congr fun id => and_congr_left' (nodeIds_perm h).mem_iff

end Graph

/-! ### Reports -/

section Reports

variable {r : Registry} {o : Options} {s s' : Snapshot}

open Report (without without_append without_eq_self without_eq_nil)

/-- What a report has apart from circles. -/
theorem without_circles :
    without [.circularDependency] (s.issues r o) = nodesIssues r o s [] s.nodes ++
      if o.checksWholeFlow then s.edges.flatMap (edgeIssues r s) ++ isolationIssues s else [] := by
  have hnodes : without [.circularDependency] (nodesIssues r o s [] s.nodes) =
      nodesIssues r o s [] s.nodes := without_eq_self (nodesIssues_bears [] s.nodes) (by decide)
  have hedges : without [.circularDependency] (s.edges.flatMap (edgeIssues r s)) =
      s.edges.flatMap (edgeIssues r s) := without_eq_self flatMap_edgeIssues_bears (by decide)
  have hisolation : without [.circularDependency] (isolationIssues s) = isolationIssues s :=
    without_eq_self isolationIssues_bears (by decide)
  have hcycles : without [.circularDependency] (cycleIssues s) = [] :=
    without_eq_nil cycleIssues_bears (by decide)
  rw [Snapshot.issues, without_append, hnodes]
  split_ifs
  · rw [graphIssues, without_append, without_append, hedges, hisolation, hcycles, List.append_nil]
  · rfl

theorem exists_circle_iff :
    (∃ i ∈ s.issues r o, i.code = .circularDependency) ↔
      o.checksWholeFlow = true ∧ cycleIssues s ≠ [] := by
  constructor
  · rintro ⟨i, hi, hcode⟩
    have hno : ∀ {codes : List IssueCode}, i.Bears codes → .circularDependency ∈ codes :=
      fun h => hcode ▸ h.1
    rcases List.mem_append.mp hi with hi | hi
    · exact absurd (hno (nodesIssues_bears [] s.nodes i hi)) (by decide)
    · obtain ⟨hwhole, hi⟩ := List.mem_ite_nil_right.mp hi
      rw [graphIssues, List.mem_append, List.mem_append] at hi
      rcases hi with hi | hi | hi
      · exact absurd (hno (flatMap_edgeIssues_bears i hi)) (by decide)
      · exact absurd (hno (isolationIssues_bears i hi)) (by decide)
      · exact ⟨hwhole, List.ne_nil_of_mem hi⟩
  · rintro ⟨hwhole, hne⟩
    obtain ⟨i, hi⟩ := List.exists_mem_of_ne_nil _ hne
    refine ⟨i, ?_, List.mem_singleton.mp (cycleIssues_bears i hi).1⟩
    rw [Snapshot.issues, if_pos hwhole, graphIssues]
    exact List.mem_append_right _ (List.mem_append_right _ (List.mem_append_right _ hi))

theorem without_circles_perm (h : s.Reordered s') (hs : s.Numbered) (hs' : s'.Numbered) :
    (without [.circularDependency] (s.issues r o)).map (·.code) ~
      (without [.circularDependency] (s'.issues r o)).map (·.code) := by
  rw [without_circles, without_circles, List.map_append, List.map_append]
  refine (nodesIssues_perm h hs hs').append ?_
  split_ifs
  · rw [List.map_append, List.map_append]
    exact (flatMap_edgeIssues_perm h).append ((isolationIssues_perm h).map _)
  · exact .nil

theorem exists_circle_reordered (h : s.Reordered s') :
    (∃ i ∈ s.issues r o, i.code = .circularDependency) ↔
      ∃ i ∈ s'.issues r o, i.code = .circularDependency := by
  rw [exists_circle_iff, exists_circle_iff, cycleIssues_reordered h]

end Reports

end WorkflowCheck
