import WorkflowCheck.Proofs.Graph.Walk

/-!
# What one walk decides

A walk that starts with some ids met before may enter only the others and its root (`Free`), and so it
goes through a part of the graph (`Within`).  Of that part it decides whether a circle can be reached from
the root.  If there is none, the walk meets all that can be reached; if there is one, the walk stops with a
circle and has met only part of what can be reached (`fromRoot_decides`).
-/

namespace WorkflowCheck.Walk

open Relation

/-! ### The part of the graph that is left -/

/-- An id that a walk may enter: it was not met before, or it is the root. -/
def Free (root : String) (seen : List String) (x : String) : Prop :=
  x ∉ seen ∨ x = root

/-- An edge of the part of the graph that is left to a walk: it may enter both ends. -/
def Within (g : Adjacency) (root : String) (seen : List String) (a b : String) : Prop :=
  g.Edge a b ∧ Free root seen a ∧ Free root seen b

section Left

variable {g : Adjacency} {root : String} {seen : List String} {a b x : String}

theorem free_iff : Free root seen x ↔ ¬ Blocked root seen x := by
  rw [Free, Blocked, not_and_or, not_ne_iff]

theorem Within.open (h : Within g root seen a b) : Open g root seen a b :=
  ⟨h.1, free_iff.mp h.2.2⟩

theorem Open.within (h : Open g root seen a b) (ha : Free root seen a) : Within g root seen a b :=
  ⟨h.1, ha, free_iff.mpr h.2⟩

/-- From an id that it may enter, a walk comes only to ids that it may enter. -/
theorem reach_of_open (ha : Free root seen a) (h : ReflTransGen (Open g root seen) a b) :
    ReflTransGen (Within g root seen) a b ∧ Free root seen b := by
  induction h with
  | refl => exact ⟨.refl, ha⟩
  | tail _ hlast ih => exact ⟨ih.1.tail (hlast.within ih.2), free_iff.mpr hlast.2⟩

theorem reach_within_iff :
    ReflTransGen (Within g root seen) root x ↔ ReflTransGen (Open g root seen) root x :=
  ⟨ReflTransGen.mono (fun _ _ h => h.open) _ _, fun h => (reach_of_open (Or.inr rfl) h).1⟩

theorem reachesCircle_within_iff :
    ReachesCircle (Within g root seen) root ↔ ReachesCircle (Open g root seen) root := by
  constructor
  · rintro ⟨x, hreach, hcircle⟩
    exact ⟨x, reach_within_iff.mp hreach, TransGen.mono (fun _ _ h => h.open) _ _ hcircle⟩
  · rintro ⟨x, hreach, hcircle⟩
    obtain ⟨hreach, hfree⟩ := reach_of_open (Or.inr rfl) hreach
    obtain ⟨y, hfirst, hrest⟩ := TransGen.head'_iff.mp hcircle
    have hfirst := hfirst.within hfree
    exact ⟨x, hreach, TransGen.head' hfirst (reach_of_open hfirst.2.2 hrest).1⟩

/-- A closed path of ids that a walk may enter lies in the part that is left. -/
theorem isCircle_within {p : List String} (h : IsCircle (Open g root seen) p)
    (hfree : ∀ x ∈ p, Free root seen x) : IsCircle (Within g root seen) p :=
  ⟨h.closes, List.IsChain.imp_of_mem_imp (fun _ _ ha _ hab => hab.within (hfree _ ha)) h.follows⟩

end Left

/-! ### What is known when the walk is over -/

section Over

variable {g : Adjacency} {root : String} {seen : List String} {r : WalkResult}

theorem Outcome.not_reachesCircle (h : Outcome g root seen r) (hnone : r.cycle = none) :
    ¬ ReachesCircle (Open g root seen) root := by
  rcases (h.passed hnone root h.rooted).2 with hblocked | ⟨hends, -⟩
  · exact absurd rfl hblocked.2
  · exact hends.not_reachesCircle

/-- A walk that closes no circle meets all that it can reach. -/
theorem Outcome.mem_of_reach (h : Outcome g root seen r) (hnone : r.cycle = none) {x : String}
    (hx : ReflTransGen (Open g root seen) root x) : x ∈ r.visited := by
  induction hx with
  | refl => exact h.rooted
  | tail hreach hlast ih =>
    rcases (h.passed hnone _ ih).2 with hblocked | ⟨-, hmet⟩
    · exact absurd hblocked (free_iff.mp (reach_of_open (Or.inr rfl) hreach).2)
    · exact hmet _ hlast.1

theorem Outcome.mem_iff (h : Outcome g root seen r) (hnone : r.cycle = none) (x : String) :
    x ∈ r.visited ↔ x ∈ seen ∨ ReflTransGen (Open g root seen) root x := by
  refine ⟨h.reached x, ?_⟩
  rintro (hseen | hreach)
  · exact h.kept x hseen
  · exact h.mem_of_reach hnone hreach

theorem Outcome.exists_cycle_iff (h : Outcome g root seen r) :
    (∃ p, r.cycle = some p) ↔ ReachesCircle (Open g root seen) root := by
  constructor
  · rintro ⟨p, hp⟩
    obtain ⟨hcircle, hmem⟩ := h.circle p hp
    obtain ⟨a, hhead, hclosed⟩ := hcircle.transGen
    exact ⟨a, (hmem a (List.mem_of_mem_head? hhead)).2.2, hclosed⟩
  · intro hreach
    by_contra hno
    exact h.not_reachesCircle (Option.eq_none_iff_forall_ne_some.mpr fun p hp => hno ⟨p, hp⟩) hreach

end Over

/-- **What one walk decides.**  In the part of the graph that is left to it, a walk closes a circle exactly
if one can be reached from its root.  A walk that closes none has met exactly what was met before and what
can be reached.  A walk that closes one has met what was met before and the ids of the circle, and nothing
else than can be reached; its path is a circle of that part and can be reached too. -/
theorem fromRoot_decides (g : Adjacency) (root : String) (seen : List String) :
    ((∃ p, (fromRoot g root seen).cycle = some p) ↔
        ∃ x, ReflTransGen (Within g root seen) root x ∧ TransGen (Within g root seen) x x) ∧
      ((fromRoot g root seen).cycle = none → ∀ x, x ∈ (fromRoot g root seen).visited ↔
        x ∈ seen ∨ ReflTransGen (Within g root seen) root x) ∧
      ∀ p, (fromRoot g root seen).cycle = some p →
        (∀ x ∈ seen, x ∈ (fromRoot g root seen).visited) ∧
        (∀ x ∈ p, x ∈ (fromRoot g root seen).visited) ∧
        (∀ x ∈ (fromRoot g root seen).visited,
          x ∈ seen ∨ ReflTransGen (Within g root seen) root x) ∧
        IsCircle (Within g root seen) p ∧ ∀ x ∈ p, ReflTransGen (Within g root seen) root x := by
  have h := outcome_fromRoot g root seen
  refine ⟨?closes, fun hnone x => ?misses, fun p hp => ?closed⟩
  case closes => exact h.exists_cycle_iff.trans reachesCircle_within_iff.symm
  case misses => exact (h.mem_iff hnone x).trans (or_congr_right reach_within_iff.symm)
  case closed =>
    obtain ⟨hcircle, hmem⟩ := h.circle p hp
    refine ⟨h.kept, fun x hx => (hmem x hx).1, fun x hx => ?_, ?_, fun x hx => ?_⟩
    · exact (h.reached x hx).imp_right reach_within_iff.mpr
    · exact isCircle_within hcircle fun x hx => free_iff.mpr (hmem x hx).2.1
    · exact reach_within_iff.mpr (hmem x hx).2.2

/-- A graph with a circle behind its first id. -/
def lassoGraph : Adjacency :=
  [("a", ["b"]), ("b", ["c"]), ("c", ["b"])]

/-- The circle is closed, unless the way to it was met before. -/
theorem lassoGraph_decides :
    (fromRoot lassoGraph "a" []).cycle = some ["b", "c", "b"] ∧
      IsCircle (Within lassoGraph "a" []) ["b", "c", "b"] ∧
      (fromRoot lassoGraph "a" ["b"]).cycle = none ∧
      ∀ x, x ∈ (fromRoot lassoGraph "a" ["b"]).visited ↔
        x ∈ ["b"] ∨ ReflTransGen (Within lassoGraph "a" ["b"]) "a" x := by
  have hcloses : (fromRoot lassoGraph "a" []).cycle = some ["b", "c", "b"] := by
    simp [fromRoot, start, run, enter, circle, Adjacency.successors, Table.get?, lassoGraph]
  have hmisses : (fromRoot lassoGraph "a" ["b"]).cycle = none := by
    simp [fromRoot, start, run, skip, back, Adjacency.successors, Table.get?, lassoGraph]
  obtain ⟨-, -, hclosed⟩ := fromRoot_decides lassoGraph "a" []
  obtain ⟨-, -, -, hcircle, -⟩ := hclosed _ hcloses
  exact ⟨hcloses, hcircle, hmisses, (fromRoot_decides lassoGraph "a" ["b"]).2.1 hmisses⟩

end WorkflowCheck.Walk
