import Mathlib.Data.List.Basic
import WorkflowCheck.Proofs.Graph.Recursive
import WorkflowCheck.Proofs.Graph.Walk

/-!
# A walk turn by turn

A walk is a loop over lists that must stay in step.  `turn` is one turn of that loop which takes nothing on
trust: it fails when the end of a path is to be left that has none, and when a successor that counts as on the
path has no place there.  From the start of a walk neither happens, since every turn keeps the lists in step
(`InStep`).  No turns go on for ever, wherever they start: each of them meets an id with edges of its own for
the first time, or leaves less work on the stack (`Goes.decreases`).  So the loop ends, with the result of the
walk (`fromRoot_turns`).
-/

namespace WorkflowCheck.Walk

open Relation

/-! ### One turn -/

/-- Why a turn fails. -/
inductive TurnFault where
  /-- The end of a path is to be left that has none. -/
  | emptyPath
  /-- A successor that counts as on the path has no place there. -/
  | noPlace
  deriving DecidableEq, Repr

/-- What a turn comes to. -/
inductive Turn where
  | fails (f : TurnFault)
  | ends (r : WalkResult)
  | goesOn (w : Walk)
  deriving DecidableEq, Repr

/-- One turn of the loop. -/
def turn (g : Adjacency) (w : Walk) : Turn :=
  match w.pending with
  | [] => .ends ⟨none, w.visited⟩
  | [] :: rest =>
    match w.path with
    | [] => .fails .emptyPath
    | _ :: _ => .goesOn (w.back rest)
  | (next :: others) :: rest =>
    if next ∈ w.onPath then
      match w.path.reverse.idxOf? next with
      | none => .fails .noPlace
      | some place => .ends ⟨some (w.path.reverse.drop place ++ [next]), w.visited⟩
    else if next ∈ w.visited then .goesOn (w.skip others rest)
    else .goesOn (w.enter g next others rest)

/-- A turn goes on from one walk to another. -/
def Goes (g : Adjacency) (w w' : Walk) : Prop :=
  turn g w = .goesOn w'

instance (g : Adjacency) (w w' : Walk) : Decidable (Goes g w w') :=
  inferInstanceAs (Decidable (turn g w = .goesOn w'))

/-- Some turns go from the start of a walk to where it is. -/
def Reached (g : Adjacency) (root : String) (seen : List String) : Walk → Prop :=
  ReflTransGen (Goes g) (start g root seen)

/-! ### Lists in step -/

/-- The lists of a walk from a root are in step.  Those that belong to the path run from its end back to the
root, so the id that comes after another one on the path stands before it in the list. -/
structure InStep (g : Adjacency) (root : String) (w : Walk) : Prop where
  length : w.path.length = w.pending.length
  nodup : w.path.Nodup
  root : w.path ≠ [] → w.path.getLast? = some root
  onPath : ∀ x, x ∈ w.onPath ↔ x ∈ w.path
  met : ∀ x ∈ w.path, x ∈ w.visited
  /-- An id on the path was left for the one after it by an edge, and what comes behind that edge is what is
  pending of it. -/
  left : ∀ i a b, w.path[i + 1]? = some a → w.path[i]? = some b →
    ∃ tried rest, w.pending[i + 1]? = some rest ∧ g.successors a = tried ++ b :: rest
  /-- What is pending of the end of the path are its last successors. -/
  last : ∀ a rest, w.path.head? = some a → w.pending.head? = some rest →
    ∃ tried, g.successors a = tried ++ rest

section Frames

variable {g : Adjacency} {P : String → Prop}

theorem Suspended.length_eq :
    ∀ {next : String} {path : List String} {pending : List (List String)},
      Suspended g P next path pending → path.length = pending.length
  | _, [], [], _ => rfl
  | _, _ :: _, _ :: _, h => congrArg (· + 1) (Suspended.length_eq h.2)

theorem Frames.length_eq :
    ∀ {path : List String} {pending : List (List String)}, Frames g P path pending →
      path.length = pending.length
  | [], [], _ => rfl
  | _ :: _, _ :: _, h => congrArg (· + 1) (Suspended.length_eq h.2)

theorem Suspended.left :
    ∀ {next : String} {path : List String} {pending : List (List String)},
      Suspended g P next path pending → ∀ (i : Nat) (a b : String), path[i]? = some a → (next :: path)[i]? = some b →
        ∃ tried rest, pending[i]? = some rest ∧ g.successors a = tried ++ b :: rest
  | _, [], [], _, i, a, b, ha, _ => by simp at ha
  | next, id :: path, rest :: pending, h, 0, a, b, ha, hb => by
    obtain ⟨⟨tried, heq, -⟩, -⟩ := h
    cases ha
    cases hb
    exact ⟨tried, rest, rfl, heq⟩
  | next, id :: path, rest :: pending, h, i + 1, a, b, ha, hb => Suspended.left h.2 i a b ha hb

theorem Frames.left :
    ∀ {path : List String} {pending : List (List String)}, Frames g P path pending →
      ∀ i a b, path[i + 1]? = some a → path[i]? = some b →
        ∃ tried rest, pending[i + 1]? = some rest ∧ g.successors a = tried ++ b :: rest
  | [], [], _, i, a, b, ha, _ => by simp at ha
  | id :: path, rest :: pending, h, i, a, b, ha, hb => Suspended.left h.2 i a b ha hb

theorem Frames.last :
    ∀ {path : List String} {pending : List (List String)}, Frames g P path pending →
      ∀ a rest, path.head? = some a → pending.head? = some rest → ∃ tried, g.successors a = tried ++ rest
  | [], [], _, a, rest, ha, _ => by simp at ha
  | id :: path, top :: pending, h, a, rest, ha, hrest => by
    obtain ⟨⟨tried, heq, -⟩, -⟩ := h
    cases ha
    cases hrest
    exact ⟨tried, heq⟩

end Frames

section Turns

variable {g : Adjacency} {root : String} {seen : List String} {w w' : Walk} {r : WalkResult}

theorem Inv.inStep (h : Inv g root seen w) : InStep g root w where
  length := h.frames.length_eq
  nodup := h.nodup
  root := by
    intro hne
    rw [List.getLast?_eq_some_getLast hne]
    exact congrArg some (h.start _ (List.getLast?_eq_some_getLast hne))
  onPath := h.onPath
  met := h.met
  left := h.frames.left
  last := h.frames.last

/-- The three ways in which a turn goes on. -/
theorem Goes.cases (h : Goes g w w') :
    (∃ rest, w.pending = [] :: rest ∧ w' = w.back rest) ∨
      (∃ next others rest, w.pending = (next :: others) :: rest ∧ next ∉ w.onPath ∧ next ∈ w.visited ∧
        w' = w.skip others rest) ∨
      ∃ next others rest, w.pending = (next :: others) :: rest ∧ next ∉ w.onPath ∧ next ∉ w.visited ∧
        w' = w.enter g next others rest := by
  unfold Goes turn at h
  split at h
  case h_1 => cases h
  case h_2 rest hp =>
    split at h
    · cases h
    · cases h
      exact .inl ⟨rest, hp, rfl⟩
  case h_3 next others rest hp =>
    split_ifs at h with hon hmet
    · split at h <;> cases h
    · cases h
      exact .inr (.inl ⟨next, others, rest, hp, hon, hmet, rfl⟩)
    · cases h
      exact .inr (.inr ⟨next, others, rest, hp, hon, hmet, rfl⟩)

/-- Every turn keeps what holds of a walk. -/
theorem Inv.goes (h : Inv g root seen w) (hgoes : Goes g w w') : Inv g root seen w' := by
  rcases hgoes.cases with ⟨rest, hp, rfl⟩ | ⟨next, others, rest, hp, hoff, hmet, rfl⟩ |
      ⟨next, others, rest, hp, -, hnew, rfl⟩
  · exact h.back hp
  · exact h.skip hp hoff hmet
  · exact h.enter hp hnew

theorem Reached.inv (h : Reached g root seen w) : Inv g root seen w := by
  induction h with
  | refl => exact Inv.init g root seen
  | tail _ hgoes ih => exact ih.goes hgoes

/-- Where the lists are in step a turn does not fail. -/
theorem InStep.turn_ne_fails (h : InStep g root w) (f : TurnFault) : turn g w ≠ .fails f := by
  unfold turn
  split
  case h_1 => rintro ⟨⟩
  case h_2 rest hp =>
    split
    case h_1 hpath =>
      have hlength := h.length
      simp [hp, hpath] at hlength
    case h_2 => rintro ⟨⟩
  case h_3 next others rest hp =>
    split_ifs with hon hmet
    · have hmem : next ∈ w.path.reverse := List.mem_reverse.mpr ((h.onPath next).mp hon)
      split
      case h_1 hplace => exact absurd hmem (List.idxOf?_eq_none_iff.mp hplace)
      case h_2 => rintro ⟨⟩
    · rintro ⟨⟩
    · rintro ⟨⟩

/-! ### Turns and the walk -/

/-- From the place of a member on a list is what is left when all before that member is dropped. -/
theorem drop_of_idxOf? {a : String} :
    ∀ {as : List String} {place : Nat}, as.idxOf? a = some place → as.drop place = as.dropWhile (· ≠ a)
  | [], _, h => by simp at h
  | b :: as, place, h => by
    rw [List.idxOf?_cons] at h
    by_cases hb : b = a
    · simp [hb] at h
      simp [← h, hb]
    · simp [hb] at h
      obtain ⟨place', hplace, rfl⟩ := h
      simp [hb, drop_of_idxOf? hplace]

/-- A turn that goes on leaves the result of the walk. -/
theorem Goes.run_eq (h : Goes g w w') : run g w = run g w' := by
  obtain ⟨path, onPath, pending, visited⟩ := w
  rcases h.cases with ⟨rest, rfl, rfl⟩ | ⟨next, others, rest, rfl, hoff, hmet, rfl⟩ |
      ⟨next, others, rest, rfl, hoff, hnew, rfl⟩
  · exact run_pop
  · exact run_skip hoff hmet
  · exact run_enter hoff hnew

/-- A turn that ends the loop gives the result of the walk. -/
theorem run_of_ends (h : turn g w = .ends r) : run g w = r := by
  obtain ⟨path, onPath, pending, visited⟩ := w
  unfold turn at h
  split at h
  case h_1 hp =>
    cases hp
    cases h
    exact run_done
  case h_2 => split at h <;> cases h
  case h_3 next others rest hp =>
    cases hp
    split_ifs at h with hon hmet
    split at h
    case h_1 => cases h
    case h_2 place hplace =>
      cases h
      rw [run_close hon, circle, drop_of_idxOf? hplace]

theorem Reached.run_eq (h : Reached g root seen w) : run g w = fromRoot g root seen := by
  induction h with
  | refl => rfl
  | tail _ hgoes ih => exact hgoes.run_eq.symm.trans ih

/-! ### No turns go on for ever -/

/-- The ids with edges of their own that are still to be met, and then the work that waits on the stack. -/
def remaining (g : Adjacency) (w : Walk) : Nat × Nat :=
  (unmet g w.visited, waiting w.pending)

/-- A turn makes the ids that are to be met fewer, or leaves them as many and makes the work less. -/
theorem Goes.decreases (h : Goes g w w') : Prod.Lex (· < ·) (· < ·) (remaining g w') (remaining g w) := by
  rcases h.cases with ⟨rest, hp, rfl⟩ | ⟨next, others, rest, hp, -, -, rfl⟩ |
      ⟨next, others, rest, hp, -, hnew, rfl⟩
  · refine Prod.Lex.right _ ?_
    simp [back, hp, waiting]
  · refine Prod.Lex.right _ ?_
    simp [skip, hp, waiting]
  · by_cases hkey : next ∈ g.keys
    · exact Prod.Lex.left _ _ (unmet_lt hkey hnew)
    · have hsame : remaining g (w.enter g next others rest) =
          (unmet g w.visited, waiting ([] :: others :: rest)) := by
        rw [remaining, enter, unmet_le hkey, successors_eq_nil hkey]
      rw [hsame]
      refine Prod.Lex.right _ ?_
      simp only [hp, waiting, List.length_nil, List.length_cons]
      omega

theorem wellFounded_goes (g : Adjacency) : WellFounded fun w' w => Goes g w w' :=
  Subrelation.wf (fun h => Goes.decreases h) (InvImage.wf (remaining g) (Prod.lex Nat.lt_wfRel Nat.lt_wfRel).wf)

/-- Turns that do not fail come to an end. -/
theorem exists_ends (w : Walk) (h : Inv g root seen w) :
    ∃ w', ReflTransGen (Goes g) w w' ∧ ∃ r, turn g w' = .ends r := by
  induction w using (wellFounded_goes g).induction with
  | _ w ih =>
    cases hturn : turn g w with
    | fails f => exact absurd hturn (h.inStep.turn_ne_fails f)
    | ends r => exact ⟨w, .refl, r, hturn⟩
    | goesOn next =>
      obtain ⟨w', hreach, hends⟩ := ih next hturn (h.goes hturn)
      exact ⟨w', .head hturn hreach, hends⟩

end Turns

/-- **The loop of a walk is safe and ends.**  At every turn from the start of a walk on, the path and the stack
are of one length; the path meets no id twice, starts at the root, holds the ids that count as on it and only
ids that were met; each id on it was left for the next one by an edge, and what is pending of it are the
successors behind that edge.  So no turn fails.  No turns go on for ever, in any graph and from whatever lists,
and the loop ends with the result of the walk. -/
theorem fromRoot_turns (g : Adjacency) (root : String) (seen : List String) :
    (∀ w, Reached g root seen w → InStep g root w ∧ ∀ f, turn g w ≠ .fails f) ∧
      (∀ w w', Goes g w w' → Prod.Lex (· < ·) (· < ·) (remaining g w') (remaining g w)) ∧
      (WellFounded fun w' w => Goes g w w') ∧
      ∃ w, Reached g root seen w ∧ turn g w = .ends (fromRoot g root seen) := by
  refine ⟨fun w hw => ⟨hw.inv.inStep, hw.inv.inStep.turn_ne_fails⟩, fun w w' h => h.decreases,
    wellFounded_goes g, ?_⟩
  obtain ⟨w, hw, r, hends⟩ := exists_ends (start g root seen) (Inv.init g root seen)
  have hresult : r = fromRoot g root seen := (run_of_ends hends).symm.trans (Reached.run_eq hw)
  exact ⟨w, hw, hresult ▸ hends⟩

/-- A graph with a circle behind a branch that leads nowhere. -/
def branchGraph : Adjacency :=
  [("a", ["b", "c"]), ("c", ["b", "a"])]

/-- The walk went into the branch, came back, and went on past it to what leads to its root. -/
theorem branchGraph_turns :
    Reached branchGraph "a" [] ⟨["c", "a"], ["c", "a"], [["a"], []], ["c", "b", "a"]⟩ ∧
      InStep branchGraph "a" ⟨["c", "a"], ["c", "a"], [["a"], []], ["c", "b", "a"]⟩ ∧
      turn branchGraph ⟨["c", "a"], ["c", "a"], [["a"], []], ["c", "b", "a"]⟩ =
        .ends ⟨some ["a", "c", "a"], ["c", "b", "a"]⟩ := by
  have hinto : Goes branchGraph (start branchGraph "a" [])
      ⟨["b", "a"], ["b", "a"], [[], ["c"]], ["b", "a"]⟩ := by decide
  have hback : Goes branchGraph ⟨["b", "a"], ["b", "a"], [[], ["c"]], ["b", "a"]⟩
      ⟨["a"], ["a"], [["c"]], ["b", "a"]⟩ := by decide
  have hon : Goes branchGraph ⟨["a"], ["a"], [["c"]], ["b", "a"]⟩
      ⟨["c", "a"], ["c", "a"], [["b", "a"], []], ["c", "b", "a"]⟩ := by decide
  have hpast : Goes branchGraph ⟨["c", "a"], ["c", "a"], [["b", "a"], []], ["c", "b", "a"]⟩
      ⟨["c", "a"], ["c", "a"], [["a"], []], ["c", "b", "a"]⟩ := by decide
  have hreached : Reached branchGraph "a" [] ⟨["c", "a"], ["c", "a"], [["a"], []], ["c", "b", "a"]⟩ :=
    (((ReflTransGen.single hinto).tail hback).tail hon).tail hpast
  exact ⟨hreached, ((fromRoot_turns branchGraph "a" []).1 _ hreached).1, by decide⟩

end WorkflowCheck.Walk
