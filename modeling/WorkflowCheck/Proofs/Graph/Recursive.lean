import Mathlib.Tactic.SplitIfs
import WorkflowCheck.Rules.Graph

/-!
# Walks and recursive searches

`searchFrom` is depth-first search as it is written down with recursion: it goes through the successors of
the end of a path, and for each one that was not met it searches from there, on the path made longer by it.
A walk does the same with a stack of its own.  What is below the top of that stack waits while the search
among the successors at the top takes place (`run_eq_searchFrom`), so a walk and the search from its root
come to the same result, and so do rounds of them over several roots (`walks_eq_searches`).
-/

namespace WorkflowCheck

namespace Walk

/-! ### The recursive search -/

/-- Fewer ids are left to be met when more were met. -/
theorem unmet_mono {g : Adjacency} {visited visited' : List String}
    (h : ∀ x ∈ visited, x ∈ visited') : unmet g visited' ≤ unmet g visited := by
  unfold unmet
  rw [← List.countP_eq_length_filter, ← List.countP_eq_length_filter]
  refine List.countP_mono_left fun x _ hx => ?_
  exact decide_eq_true fun hmet => of_decide_eq_true hx (h x hmet)

/-- What a search comes to that starts with some ids met, all of which stay met. -/
abbrev SearchResult (visited : List String) : Type :=
  { r : WalkResult // ∀ x ∈ visited, x ∈ r.visited }

/-- The search among the successors of the end of a path, which runs from the root on.  A successor on the
path closes a circle and ends the search; one that was met is passed over; any other is searched from. -/
def searchFrom (g : Adjacency) (path visited : List String) : List String → SearchResult visited
  | [] => ⟨⟨none, visited⟩, fun _ hx => hx⟩
  | next :: others =>
    if next ∈ path then ⟨⟨some (path.dropWhile (· ≠ next) ++ [next]), visited⟩, fun _ hx => hx⟩
    else if _hmet : next ∈ visited then searchFrom g path visited others
    else
      let inner := searchFrom g (path ++ [next]) (next :: visited) (g.successors next)
      have hkept : ∀ x ∈ visited, x ∈ inner.val.visited :=
        fun x hx => inner.property x (List.mem_cons_of_mem next hx)
      match inner.val.cycle with
      | some cycle => ⟨⟨some cycle, inner.val.visited⟩, hkept⟩
      | none =>
        let rest := searchFrom g path inner.val.visited others
        ⟨rest.val, fun x hx => rest.property x (hkept x hx)⟩
termination_by pending => (unmet g visited, pending.length)
decreasing_by
  · exact Prod.Lex.right _ (Nat.lt_succ_self _)
  · by_cases hkey : next ∈ g.keys
    · exact Prod.Lex.left _ _ (unmet_lt hkey _hmet)
    · rw [unmet_le hkey, successors_eq_nil hkey]
      exact Prod.Lex.right _ (Nat.succ_pos _)
  · rcases Nat.lt_or_eq_of_le (unmet_mono hkept) with h | h
    · exact Prod.Lex.left _ _ h
    · rw [h]
      exact Prod.Lex.right _ (Nat.lt_succ_self _)

/-- The search from a root, given the ids met before. -/
def search (g : Adjacency) (root : String) (visited : List String) : WalkResult :=
  searchFrom g [root] (root :: visited) (g.successors root)

/-! ### A walk step by step -/

section Steps

variable {g : Adjacency} {path onPath visited others : List String} {next id : String}
  {below : List (List String)}

theorem run_done : run g ⟨path, onPath, [], visited⟩ = ⟨none, visited⟩ := by
  rw [run]

theorem run_pop :
    run g ⟨path, onPath, [] :: below, visited⟩ =
      run g (back ⟨path, onPath, [] :: below, visited⟩ below) := by
  rw [run]

theorem run_back (hid : id ∉ onPath) :
    run g ⟨id :: path, id :: onPath, [] :: below, visited⟩ = run g ⟨path, onPath, below, visited⟩ := by
  have hleft : onPath.filter (some · ≠ some id) = onPath := by
    refine List.filter_eq_self.mpr fun x hx => decide_eq_true ?_
    rintro ⟨⟩
    exact hid hx
  have hback : (Walk.mk (id :: path) (id :: onPath) ([] :: below) visited).back below =
      ⟨path, onPath, below, visited⟩ := by
    simpa [back] using hleft
  exact run_pop.trans (congrArg (run g) hback)

theorem run_close (hon : next ∈ onPath) :
    run g ⟨path, onPath, (next :: others) :: below, visited⟩ = ⟨some (circle path next), visited⟩ := by
  rw [run]
  exact if_pos hon

theorem run_skip (hoff : next ∉ onPath) (hmet : next ∈ visited) :
    run g ⟨path, onPath, (next :: others) :: below, visited⟩ =
      run g ⟨path, onPath, others :: below, visited⟩ := by
  rw [run]
  exact (if_neg hoff).trans (dif_pos hmet)

theorem run_enter (hoff : next ∉ onPath) (hnew : next ∉ visited) :
    run g ⟨path, onPath, (next :: others) :: below, visited⟩ =
      run g ⟨next :: path, next :: onPath, g.successors next :: others :: below, next :: visited⟩ := by
  rw [run]
  exact (if_neg hoff).trans (dif_neg hnew)

end Steps

end Walk

/-! ### A walk is a search -/

/-- A result that closes a circle, or else what comes of going on with the ids that were met. -/
def WalkResult.orElse (r : WalkResult) (rest : List String → WalkResult) : WalkResult :=
  match r.cycle with
  | some _ => r
  | none => rest r.visited

theorem WalkResult.orElse_of_some {r : WalkResult} {rest : List String → WalkResult} {cycle : List String}
    (h : r.cycle = some cycle) : r.orElse rest = ⟨some cycle, r.visited⟩ := by
  obtain ⟨_, visited⟩ := r
  subst h
  rfl

theorem WalkResult.orElse_of_none {r : WalkResult} {rest : List String → WalkResult}
    (h : r.cycle = none) : r.orElse rest = rest r.visited := by
  rw [orElse, h]

namespace Walk

/-- What is at the top of the stack is searched as by recursion; what is below it is gone on with when no
circle was closed. -/
theorem run_eq_searchFrom (g : Adjacency) (path visited pending : List String) :
    ∀ (onPath : List String) (below : List (List String)), (∀ x, x ∈ onPath ↔ x ∈ path) →
      run g ⟨path.reverse, onPath, pending :: below, visited⟩ =
        (searchFrom g path visited pending).val.orElse fun met =>
          run g ⟨path.reverse, onPath, [] :: below, met⟩ := by
  have hlonger : ∀ {path onPath : List String} (next : String), (∀ x, x ∈ onPath ↔ x ∈ path) →
      ∀ x, x ∈ next :: onPath ↔ x ∈ path ++ [next] := by
    intro path onPath next hon x
    rw [List.mem_cons, List.mem_append, List.mem_singleton, hon, or_comm]
  fun_induction searchFrom g path visited pending with
  | case1 path visited => exact fun _ _ _ => rfl
  | case2 path visited next others hin =>
    intro onPath below hon
    rw [run_close ((hon next).mpr hin), circle, List.reverse_reverse]
    rfl
  | case3 path visited next others hoff hmet ih =>
    intro onPath below hon
    rw [run_skip (mt (hon next).mp hoff) hmet]
    exact ih onPath below hon
  | case4 path visited next others hoff hnew inner hkept cycle hcycle ih =>
    intro onPath below hon
    have hinner := ih (next :: onPath) (others :: below) (hlonger next hon)
    rw [List.reverse_concat, WalkResult.orElse_of_some hcycle] at hinner
    exact (run_enter (mt (hon next).mp hoff) hnew).trans hinner
  | case5 path visited next others hoff hnew inner hkept hnone rest ih ihrest _ =>
    intro onPath below hon
    have hoff' : next ∉ onPath := mt (hon next).mp hoff
    have hinner := ih (next :: onPath) (others :: below) (hlonger next hon)
    -- the search from `next` is over, so the walk goes back to the path that it came from
    rw [List.reverse_concat, WalkResult.orElse_of_none hnone, run_back hoff'] at hinner
    exact (run_enter hoff' hnew).trans (hinner.trans (ihrest onPath below hon))

theorem fromRoot_eq_search (g : Adjacency) (root : String) (visited : List String) :
    fromRoot g root visited = search g root visited := by
  have hover : ∀ met, run g ⟨[root], [root], [[]], met⟩ = ⟨none, met⟩ := fun met =>
    (run_back List.not_mem_nil).trans run_done
  have hrun := run_eq_searchFrom g [root] (root :: visited) (g.successors root) [root] [] fun _ => Iff.rfl
  refine hrun.trans ?_
  simp only [List.reverse_singleton, hover]
  rw [search]
  generalize (searchFrom g [root] (root :: visited) (g.successors root)).val = r
  obtain ⟨cycle, met⟩ := r
  cases cycle with
  | none => rfl
  | some cycle => rfl

end Walk

/-! ### Rounds over several roots -/

/-- The circles that searches from some roots close, one after the other.  Each one is given the ids that
those before it met, and a root that was met is passed over. -/
def circlesBy (find : String → List String → WalkResult) : List String → List String → List (List String)
  | _, [] => []
  | visited, root :: roots =>
    if root ∈ visited then circlesBy find visited roots
    else
      let found := find root visited
      found.cycle.toList ++ circlesBy find found.visited roots

theorem cyclesFrom_eq_circlesBy (g : Adjacency) :
    ∀ visited roots, cyclesFrom g visited roots = circlesBy (Walk.fromRoot g) visited roots
  | _, [] => rfl
  | visited, root :: roots => by
    rw [cyclesFrom, circlesBy]
    split_ifs
    · exact cyclesFrom_eq_circlesBy g visited roots
    · exact congrArg (_ ++ ·) (cyclesFrom_eq_circlesBy g _ roots)

/-- **A walk is the recursive search.**  From any root, with any ids met before, it closes the same circle
or none, and has met the same ids in the end.  So the circles of a flow are those that recursive searches
from its nodes close in turn. -/
theorem walks_eq_searches :
    (∀ (g : Adjacency) (root : String) (visited : List String),
      Walk.fromRoot g root visited = Walk.search g root visited) ∧
      ∀ s : Snapshot, cycleIssues s =
        (circlesBy (Walk.search s.adjacency) [] (s.nodes.filterMap (·.id))).map cycleIssue := by
  refine ⟨Walk.fromRoot_eq_search, fun s => ?_⟩
  have hsame : Walk.fromRoot s.adjacency = Walk.search s.adjacency := by
    funext root visited
    exact Walk.fromRoot_eq_search s.adjacency root visited
  rw [cycleIssues, cyclesFrom_eq_circlesBy, hsame]

end WorkflowCheck
