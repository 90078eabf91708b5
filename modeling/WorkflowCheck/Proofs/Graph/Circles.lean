import WorkflowCheck.Proofs.Graph.Index
import WorkflowCheck.Proofs.Graph.Walk

/-!
# The circles that a flow is reported with

`FoundCircle` is a reported path together with the root whose walk met it.  Walks share the ids that
they have met, and one that reports leaves its part of the graph half explored, so a later walk may skip
ids of which nothing is known.  Until the first report, though, every walk from an id that was met
comes to an end (`ends_of_foundFrom_eq_nil`), which is why a flow without a report has no circle within
reach of its nodes.  The ids of a reported path were new to the walk that reports it, which keeps the
paths of different roots apart (`pairwise_foundFrom`).
-/

namespace WorkflowCheck

open Relation

/-! ### Edges of a flow -/

/-- There is an edge of the flow from the first id to the second. -/
def Snapshot.Links (s : Snapshot) (a b : String) : Prop :=
  ∃ e ∈ s.edges, e.source = some a ∧ e.target = some b

theorem Snapshot.edge_adjacency_iff (s : Snapshot) {a b : String} :
    s.adjacency.Edge a b ↔ s.Links a b := by
  rw [Adjacency.Edge, successors_adjacency, List.mem_filterMap]
  constructor
  · rintro ⟨e, he, ht⟩
    unfold targetFrom at ht
    split_ifs at ht with hs
    exact ⟨e, he, hs, ht⟩
  · rintro ⟨e, he, hs, ht⟩
    refine ⟨e, he, ?_⟩
    rw [targetFrom, if_pos hs, ht]

/-! ### Circles with their roots -/

/-- A circle, and the root from which it was met. -/
structure FoundCircle where
  root : String
  path : List String

/-- The circles that walks from some roots close, each with its root. -/
def foundFrom (g : Adjacency) : List String → List String → List FoundCircle
  | _, [] => []
  | visited, root :: roots =>
    if root ∈ visited then foundFrom g visited roots
    else
      let walk := Walk.fromRoot g root visited
      walk.cycle.toList.map (FoundCircle.mk root) ++ foundFrom g walk.visited roots

theorem map_path_foundFrom (g : Adjacency) :
    ∀ visited roots, (foundFrom g visited roots).map (·.path) = cyclesFrom g visited roots
  | _, [] => rfl
  | visited, root :: roots => by
    unfold foundFrom cyclesFrom
    split_ifs with h
    · exact map_path_foundFrom g visited roots
    · simp only [List.map_append, List.map_map, map_path_foundFrom g]
      congr 1
      exact List.map_id _

section Found

variable {g : Adjacency}

theorem mem_foundFrom_cons {visited roots : List String} {root : String} {c : FoundCircle} :
    c ∈ foundFrom g visited (root :: roots) ↔
      if root ∈ visited then c ∈ foundFrom g visited roots
      else (c.root = root ∧ c.path ∈ (Walk.fromRoot g root visited).cycle) ∨
        c ∈ foundFrom g (Walk.fromRoot g root visited).visited roots := by
  rw [foundFrom]
  split_ifs with h
  · rfl
  · rw [List.mem_append]
    apply or_congr_left
    simp only [List.mem_map, Option.mem_toList]
    constructor
    · rintro ⟨p, hp, rfl⟩
      exact ⟨rfl, hp⟩
    · rintro ⟨rfl, hp⟩
      exact ⟨c.path, hp, rfl⟩

theorem blocked_iff {root : String} {visited : List String} (h : root ∉ visited) {x : String} :
    Walk.Blocked root visited x ↔ x ∈ visited := by
  refine ⟨And.left, fun hx => ⟨hx, ?_⟩⟩
  rintro rfl
  exact h hx

/-- A walk without a report over ids that all end adds only ids that end. -/
theorem ends_of_cycle_eq_none {root : String} {visited : List String}
    (hnone : (Walk.fromRoot g root visited).cycle = none)
    (hends : ∀ x ∈ visited, Ends g.Edge x) :
    ∀ x ∈ (Walk.fromRoot g root visited).visited, Ends g.Edge x := by
  intro x hx
  rcases ((Walk.outcome_fromRoot g root visited).passed hnone x hx).2 with hb | ⟨he, -⟩
  · exact hends x hb.1
  · refine he.of_beyond fun a b hab hopen => ?_
    have hblocked : Walk.Blocked root visited b := by
      by_contra hb
      exact hopen ⟨hab, hb⟩
    exact hends b hblocked.1

/-- If walks report nothing, then every walk from one of the roots comes to an end. -/
theorem ends_of_foundFrom_eq_nil :
    ∀ (visited roots : List String), foundFrom g visited roots = [] →
      (∀ x ∈ visited, Ends g.Edge x) → ∀ root ∈ roots, Ends g.Edge root
  | _, [], _, _, root, hroot => absurd hroot List.not_mem_nil
  | visited, r :: roots, hnil, hends, root, hroot => by
    unfold foundFrom at hnil
    split_ifs at hnil with h
    · rcases List.mem_cons.mp hroot with rfl | hroot
      · exact hends root h
      · exact ends_of_foundFrom_eq_nil visited roots hnil hends root hroot
    · rw [List.append_eq_nil_iff, List.map_eq_nil_iff, Option.toList_eq_nil_iff] at hnil
      have hends' := ends_of_cycle_eq_none hnil.1 hends
      rcases List.mem_cons.mp hroot with rfl | hroot
      · exact hends' root (Walk.outcome_fromRoot g root visited).rooted
      · exact ends_of_foundFrom_eq_nil _ roots hnil.2 hends' root hroot

/-- What holds of every reported circle: its root is one of the roots and new, its path is a circle
that can be reached from there, and all its ids are new. -/
theorem foundFrom_sound :
    ∀ (visited roots : List String), ∀ c ∈ foundFrom g visited roots,
      c.root ∈ roots ∧ c.root ∉ visited ∧ IsCircle g.Edge c.path ∧
        ∀ x ∈ c.path, ReflTransGen g.Edge c.root x ∧ x ∉ visited
  | _, [], c, hc => absurd hc List.not_mem_nil
  | visited, root :: roots, c, hc => by
    rw [mem_foundFrom_cons] at hc
    split_ifs at hc with h
    · obtain ⟨hroot, hrest⟩ := foundFrom_sound visited roots c hc
      exact ⟨List.mem_cons_of_mem root hroot, hrest⟩
    · have hout := Walk.outcome_fromRoot g root visited
      rcases hc with ⟨hroot, hcycle⟩ | hc
      · obtain ⟨hcircle, hmem⟩ := hout.circle c.path hcycle
        refine ⟨by simp [hroot], hroot ▸ h, hcircle.imp fun a b hab => hab.1, fun x hx => ?_⟩
        obtain ⟨-, hfree, hreach⟩ := hmem x hx
        rw [blocked_iff h] at hfree
        refine ⟨?_, hfree⟩
        rw [hroot]
        exact ReflTransGen.mono (fun a b hab => hab.1) _ _ hreach
      · obtain ⟨hroot, hnew, hcircle, hmem⟩ := foundFrom_sound _ roots c hc
        refine ⟨List.mem_cons_of_mem root hroot, fun hv => hnew (hout.kept _ hv), hcircle, ?_⟩
        exact fun x hx => ⟨(hmem x hx).1, fun hv => (hmem x hx).2 (hout.kept x hv)⟩

/-- Circles of different roots have no id in common. -/
theorem pairwise_foundFrom :
    ∀ (visited roots : List String),
      (foundFrom g visited roots).Pairwise fun c d => c.root ≠ d.root ∧ c.path.Disjoint d.path
  | _, [] => List.Pairwise.nil
  | visited, root :: roots => by
    unfold foundFrom
    split_ifs with h
    · exact pairwise_foundFrom visited roots
    · have hout := Walk.outcome_fromRoot g root visited
      refine List.pairwise_append.mpr ⟨?_, pairwise_foundFrom _ roots, ?_⟩
      · cases (Walk.fromRoot g root visited).cycle <;> simp
      · intro c hc d hd
        obtain ⟨p, hp, rfl⟩ := List.mem_map.mp hc
        obtain ⟨-, hnew, -, hmem⟩ := foundFrom_sound _ roots d hd
        obtain ⟨-, hmet⟩ := hout.circle p (Option.mem_toList.mp hp)
        constructor
        · rintro rfl
          exact hnew hout.rooted
        · intro x hx hx'
          exact (hmem x hx').2 (hmet x hx).1

/-- Walks report a circle exactly when one can be reached from a root. -/
theorem foundFrom_ne_nil_iff {roots : List String} :
    foundFrom g [] roots ≠ [] ↔ ∃ root ∈ roots, ReachesCircle g.Edge root := by
  constructor
  · intro h
    obtain ⟨c, hc⟩ := List.exists_mem_of_ne_nil _ h
    obtain ⟨hroot, -, hcircle, hmem⟩ := foundFrom_sound [] roots c hc
    obtain ⟨a, hhead, hcycle⟩ := hcircle.transGen
    exact ⟨c.root, hroot, a, (hmem a (List.mem_of_mem_head? hhead)).1, hcycle⟩
  · rintro ⟨root, hroot, hreach⟩ hnil
    refine (ends_of_foundFrom_eq_nil [] roots hnil ?_ root hroot).not_reachesCircle hreach
    exact fun x hx => absurd hx List.not_mem_nil

end Found

/-! ### The circles of a flow -/

namespace Snapshot

/-- The circles that a flow is reported with, each with its root. -/
def foundCircles (s : Snapshot) : List FoundCircle :=
  foundFrom s.adjacency [] (s.nodes.filterMap (·.id))

theorem cycleIssues_eq_map (s : Snapshot) :
    cycleIssues s = s.foundCircles.map fun c => cycleIssue c.path := by
  unfold cycleIssues foundCircles
  rw [← map_path_foundFrom, List.map_map]
  rfl

theorem mem_nodeIds {s : Snapshot} {id : String} :
    id ∈ s.nodes.filterMap (·.id) ↔ ∃ n ∈ s.nodes, n.id = some id := by
  rw [List.mem_filterMap]

theorem reachesCircle_adjacency_iff {s : Snapshot} {a : String} :
    ReachesCircle s.adjacency.Edge a ↔ ReachesCircle s.Links a := by
  have h : s.adjacency.Edge = s.Links := by
    ext a b
    exact s.edge_adjacency_iff
  rw [h]

theorem cycleIssues_ne_nil_iff (s : Snapshot) :
    cycleIssues s ≠ [] ↔ ∃ n ∈ s.nodes, ∃ id, n.id = some id ∧ ReachesCircle s.Links id := by
  rw [cycleIssues_eq_map, ne_eq, List.map_eq_nil_iff]
  refine foundFrom_ne_nil_iff.trans ⟨?_, ?_⟩
  · rintro ⟨id, hid, hreach⟩
    obtain ⟨n, hn, hnid⟩ := mem_nodeIds.mp hid
    exact ⟨n, hn, id, hnid, reachesCircle_adjacency_iff.mp hreach⟩
  · rintro ⟨n, hn, id, hnid, hreach⟩
    exact ⟨id, mem_nodeIds.mpr ⟨n, hn, hnid⟩, reachesCircle_adjacency_iff.mpr hreach⟩

/-- Without edges there are no circles. -/
theorem cycleIssues_of_no_edges {s : Snapshot} (h : s.edges = []) : cycleIssues s = [] := by
  by_contra hne
  obtain ⟨-, -, -, -, x, -, hcircle⟩ := s.cycleIssues_ne_nil_iff.mp hne
  obtain ⟨-, ⟨e, he, -⟩, -⟩ := TransGen.head'_iff.mp hcircle
  rw [h] at he
  cases he

end Snapshot

/-- **Circles are reported exactly.**  There is an issue of a circle if and only if a circle can be
reached from the id of some node.  The issues are those of the circles found, one for each; the path of
each starts and ends with the id that the issue names, follows edges of the flow, meets no other id
twice, and can be reached from the node whose walk found it; and the paths found from different nodes
have no id in common. -/
theorem cycleIssues_exact (s : Snapshot) :
    ((∃ i ∈ cycleIssues s, i.code = .circularDependency) ↔
      ∃ n ∈ s.nodes, ∃ id, n.id = some id ∧
        ∃ x, ReflTransGen s.Links id x ∧ TransGen s.Links x x) ∧
    cycleIssues s = s.foundCircles.map (fun c => cycleIssue c.path) ∧
    (∀ c ∈ s.foundCircles,
      (∃ n ∈ s.nodes, n.id = some c.root) ∧
      ∃ a mid, c.path = a :: mid ++ [a] ∧ (cycleIssue c.path).elementId = some a ∧
        (a :: mid).Nodup ∧ c.path.IsChain s.Links ∧ ReflTransGen s.Links c.root a) ∧
    s.foundCircles.Pairwise fun c d => c.root ≠ d.root ∧ c.path.Disjoint d.path := by
  refine ⟨?_, s.cycleIssues_eq_map, ?_, pairwise_foundFrom _ _⟩
  · refine Iff.trans ?_ s.cycleIssues_ne_nil_iff
    constructor
    · rintro ⟨i, hi, -⟩
      exact List.ne_nil_of_mem hi
    · intro h
      obtain ⟨i, hi⟩ := List.exists_mem_of_ne_nil _ h
      obtain ⟨p, -, rfl⟩ := List.mem_map.mp hi
      exact ⟨_, hi, rfl⟩
  · intro c hc
    obtain ⟨hroot, -, hcircle, hmem⟩ := foundFrom_sound _ _ c hc
    have hlinks := hcircle.imp fun a b hab => s.edge_adjacency_iff.mp hab
    obtain ⟨a, mid, hpath, hnodup⟩ := hlinks.closes
    refine ⟨Snapshot.mem_nodeIds.mp hroot, a, mid, hpath, ?_, hnodup, hlinks.follows, ?_⟩
    · rw [hpath]
      rfl
    · have hreach := (hmem a (by rw [hpath]; simp)).1
      exact ReflTransGen.mono (fun x y hxy => s.edge_adjacency_iff.mp hxy) _ _ hreach

end WorkflowCheck
