import Mathlib.Data.List.Basic
import WorkflowCheck.Proofs.Graph.Recursive

/-!
# Walks over renamed graphs

A walk compares ids and does nothing else with them.  So if one graph has the edges of another one under new
ids, a walk over it is the other walk under new ids, step by step (`Walk.run_map`), and the circles that are
met from the new roots are the old circles renamed (`cyclesFrom_map`).
-/

namespace WorkflowCheck

open Function (Injective)

variable {f : String → String} {g g' : Adjacency}

/-- The second graph has the successors of each id under new ids, as those of its new id. -/
def Adjacency.RenamedBy (f : String → String) (g g' : Adjacency) : Prop :=
  ∀ id, g'.successors (f id) = (g.successors id).map f

/-- The walk under new ids. -/
def Walk.map (f : String → String) (w : Walk) : Walk :=
  ⟨w.path.map f, w.onPath.map f, w.pending.map (List.map f), w.visited.map f⟩

/-- The result under new ids. -/
def WalkResult.map (f : String → String) (r : WalkResult) : WalkResult :=
  ⟨r.cycle.map (List.map f), r.visited.map f⟩

namespace Walk

variable {w : Walk} {next : String} {others : List String} {rest : List (List String)}

theorem map_back (hf : Injective f) :
    (w.back rest).map f = (w.map f).back (rest.map (List.map f)) := by
  have hleft : (w.onPath.filter (some · ≠ w.path.head?)).map f =
      (w.onPath.map f).filter (some · ≠ (w.path.map f).head?) := by
    rw [List.filter_map, List.head?_map]
    congr 1
    refine List.filter_congr fun id _ => decide_eq_decide.mpr (not_congr ?_)
    rw [← Option.map_some, (Option.map_injective hf).eq_iff]
  rw [map, back, back, map, hleft, List.map_tail]

theorem map_skip : (w.skip others rest).map f = (w.map f).skip (others.map f) (rest.map (List.map f)) :=
  rfl

theorem map_enter (hg : g.RenamedBy f g') :
    (enter g w next others rest).map f =
      enter g' (w.map f) (f next) (others.map f) (rest.map (List.map f)) := by
  simp only [enter, map, List.map_cons, hg next]

theorem map_circle (hf : Injective f) (path : List String) (id : String) :
    (circle path id).map f = circle (path.map f) (f id) := by
  have htest : (fun x => decide (x ≠ f id)) ∘ f = fun x => decide (x ≠ id) :=
    funext fun x => decide_eq_decide.mpr (not_congr hf.eq_iff)
  rw [circle, circle, List.map_append, ← List.map_reverse, List.dropWhile_map, htest, List.map_singleton]

/-- What a walk comes to over the renamed graph is the old result renamed. -/
theorem run_map (hf : Injective f) (hg : g.RenamedBy f g') (w : Walk) :
    run g' (w.map f) = (run g w).map f := by
  have hmem : ∀ {id : String} {ids : List String}, f id ∈ ids.map f ↔ id ∈ ids :=
    List.mem_map_of_injective hf
  -- each step of the one walk is the same kind of step of the other
  fun_induction run g w with
  | case1 w hpending =>
    obtain ⟨path, onPath, pending, visited⟩ := w
    cases hpending
    exact run_done
  | case2 w rest hpending ih =>
    obtain ⟨path, onPath, pending, visited⟩ := w
    cases hpending
    rw [map_back hf] at ih
    exact run_pop.trans ih
  | case3 w next others rest hpending hon =>
    obtain ⟨path, onPath, pending, visited⟩ := w
    cases hpending
    refine (run_close (hmem.mpr hon)).trans ?_
    rw [WalkResult.map, Option.map_some, map_circle hf]
  | case4 w next others rest hpending hoff hmet ih =>
    obtain ⟨path, onPath, pending, visited⟩ := w
    cases hpending
    rw [map_skip] at ih
    exact (run_skip (mt hmem.mp hoff) (hmem.mpr hmet)).trans ih
  | case5 w next others rest hpending hoff hnew ih =>
    obtain ⟨path, onPath, pending, visited⟩ := w
    cases hpending
    rw [map_enter hg] at ih
    exact (run_enter (mt hmem.mp hoff) (mt hmem.mp hnew)).trans ih

theorem fromRoot_map (hf : Injective f) (hg : g.RenamedBy f g') (root : String) (visited : List String) :
    fromRoot g' (f root) (visited.map f) = (fromRoot g root visited).map f := by
  rw [fromRoot, fromRoot, ← run_map hf hg, start, start, hg root]
  rfl

end Walk

/-- Walks from the new roots meet the old circles under new ids. -/
theorem cyclesFrom_map (hf : Injective f) (hg : g.RenamedBy f g') :
    ∀ visited roots : List String,
      cyclesFrom g' (visited.map f) (roots.map f) = (cyclesFrom g visited roots).map (List.map f)
  | _, [] => rfl
  | visited, root :: roots => by
    have hmet : f root ∈ visited.map f ↔ root ∈ visited := List.mem_map_of_injective hf
    rw [List.map_cons, cyclesFrom, cyclesFrom, Walk.fromRoot_map hf hg]
    by_cases hroot : root ∈ visited
    · rw [if_pos hroot, if_pos (hmet.mpr hroot)]
      exact cyclesFrom_map hf hg visited roots
    · rw [if_neg hroot, if_neg (mt hmet.mp hroot), List.map_append, ← cyclesFrom_map hf hg _ roots,
        ← Option.toList_map]
      rfl

end WorkflowCheck
