import WorkflowCheck.Table

/-!
# Depth-first walks

A walk from a root follows edges in their order, keeps the path that it is on, and stops at the
first edge that leads back to that path.  It works with a stack of its own, so that no depth of a
graph is too much; the ids that it has met are handed on to later walks, which do not enter them
again.
-/

namespace WorkflowCheck

/-- The successors of each id in the order of the edges. -/
abbrev Adjacency := Table String (List String)

namespace Adjacency

/-- The successors of an id. -/
def successors (g : Adjacency) (id : String) : List String :=
  (g.get? id).getD []

end Adjacency

/-! ### A walk under way -/

/-- A walk under way.  The lists that belong to the path run from its end back to the root. -/
structure Walk where
  /-- The ids on the path. -/
  path : List String
  /-- The same ids, as a set. -/
  onPath : List String
  /-- For each id on the path the successors that are still to be tried. -/
  pending : List (List String)
  /-- The ids met so far, in this walk or before. -/
  visited : List String
  deriving DecidableEq, Repr

/-- What a walk comes to: the circle that it closes, if any, and the ids met. -/
structure WalkResult where
  cycle : Option (List String)
  visited : List String
  deriving DecidableEq, Repr

namespace Walk

/-- The walk that stands at a root. -/
def start (g : Adjacency) (root : String) (visited : List String) : Walk :=
  ⟨[root], [root], [g.successors root], root :: visited⟩

/-- The walk back from the end of its path. -/
def back (w : Walk) (rest : List (List String)) : Walk :=
  { w with
    path := w.path.tail, onPath := w.onPath.filter (some · ≠ w.path.head?), pending := rest }

/-- The walk with a successor passed over. -/
def skip (w : Walk) (others : List String) (rest : List (List String)) : Walk :=
  { w with pending := others :: rest }

/-- The walk on to a successor. -/
def enter (g : Adjacency) (w : Walk) (next : String) (others : List String)
    (rest : List (List String)) : Walk :=
  ⟨next :: w.path, next :: w.onPath, g.successors next :: others :: rest, next :: w.visited⟩

/-- The part of a path from an id on to the end, and that id again. -/
def circle (path : List String) (id : String) : List String :=
  path.reverse.dropWhile (· ≠ id) ++ [id]

/-! ### Progress -/

/-- The ids with edges of their own that the walk has not met. -/
def unmet (g : Adjacency) (visited : List String) : Nat :=
  (g.keys.filter (· ∉ visited)).length

/-- The work that waits on the stack: two steps for each edge and one for each id. -/
def waiting : List (List String) → Nat
  | [] => 0
  | ids :: rest => 2 * ids.length + 1 + waiting rest

/-- An id without edges of its own leads nowhere. -/
theorem successors_eq_nil {g : Adjacency} {id : String} (h : id ∉ g.keys) :
    g.successors id = [] := by
  have hnone : Table.get? id g = none := by
    rw [Table.mem_keys_iff] at h
    simpa using h
  simp [Adjacency.successors, hnone]

/-- Meeting an id takes it out of the ids that are still to be met. -/
theorem unmet_cons (g : Adjacency) (id : String) (visited : List String) :
    unmet g (id :: visited) = ((g.keys.filter (· ∉ visited)).filter (· ≠ id)).length := by
  unfold unmet
  rw [List.filter_filter]
  congr 1
  apply List.filter_congr
  intro a _
  by_cases ha : a = id <;> simp [ha]

/-- Meeting an id with edges of its own leaves fewer to be met. -/
theorem unmet_lt {g : Adjacency} {id : String} {visited : List String} (hkey : id ∈ g.keys)
    (hnew : id ∉ visited) : unmet g (id :: visited) < unmet g visited := by
  rw [unmet_cons]
  apply List.length_filter_lt_length_iff_exists.2
  exact ⟨id, by simp [hkey, hnew], by simp⟩

/-- Meeting an id without edges of its own leaves as many to be met. -/
theorem unmet_le {g : Adjacency} {id : String} {visited : List String} (hkey : id ∉ g.keys) :
    unmet g (id :: visited) = unmet g visited := by
  unfold unmet
  congr 1
  apply List.filter_congr
  intro a ha
  have : a ≠ id := fun h => hkey (h ▸ ha)
  simp [this]

/-! ### The walk -/

/-- The walk to its end.  Each step takes an edge or an id off the stack, and it puts more on only
when it enters an id with edges that it had not met. -/
def run (g : Adjacency) (w : Walk) : WalkResult :=
  match _hp : w.pending with
  | [] => ⟨none, w.visited⟩
  | [] :: rest => run g (w.back rest)
  | (next :: others) :: rest =>
    if next ∈ w.onPath then ⟨some (circle w.path next), w.visited⟩
    else if _hv : next ∈ w.visited then run g (w.skip others rest)
    else run g (w.enter g next others rest)
termination_by (unmet g w.visited, waiting w.pending)
decreasing_by
  · apply Prod.Lex.right
    simp [back, _hp, waiting]
  · apply Prod.Lex.right
    simp [skip, _hp, waiting]
  · by_cases hk : next ∈ g.keys
    · apply Prod.Lex.left
      exact unmet_lt hk _hv
    · have hu : unmet g (next :: w.visited) = unmet g w.visited := unmet_le hk
      simp only [enter]
      rw [hu]
      apply Prod.Lex.right
      simp [_hp, waiting, successors_eq_nil hk]
      omega

/-- The walk from a root, given the ids met before. -/
def fromRoot (g : Adjacency) (root : String) (visited : List String) : WalkResult :=
  run g (start g root visited)

end Walk

end WorkflowCheck
