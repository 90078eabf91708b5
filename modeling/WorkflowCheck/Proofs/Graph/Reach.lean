import Mathlib.Data.List.Chain
import WorkflowCheck.Graph.Walk

/-!
# Edges, circles, and ids that lead to none

An adjacency is read as a relation on ids, `Adjacency.Edge`.  `ReachesCircle R a` says that some circle
of `R` can be reached from `a`, and `Ends R a` that every walk from `a` comes to an end.  The second
excludes the first (`Ends.not_reachesCircle`) and is what a search can establish from the leaves up: an
id all of whose successors end, ends.

`IsCircle R p` is what a report of a circle promises of its path: it closes, follows `R` all along,
and meets no id twice before it closes.
-/

namespace WorkflowCheck

open Relation

/-- There is an edge from the first id to the second. -/
def Adjacency.Edge (g : Adjacency) (a b : String) : Prop :=
  b ∈ g.successors a

section Circles

variable {R S : String → String → Prop} {a b : String} {p : List String}

/-! ### Reaching a circle -/

/-- Some circle can be reached from an id. -/
def ReachesCircle (R : String → String → Prop) (a : String) : Prop :=
  ∃ x, ReflTransGen R a x ∧ TransGen R x x

/-- Every walk from an id comes to an end. -/
def Ends (R : String → String → Prop) (a : String) : Prop :=
  Acc (fun y x => R x y) a

/-- What reaches a circle has a successor that does. -/
theorem ReachesCircle.exists_next (h : ReachesCircle R a) : ∃ b, R a b ∧ ReachesCircle R b := by
  obtain ⟨x, hx, hc⟩ := h
  rcases hx.cases_head with rfl | ⟨b, hab, hbx⟩
  · obtain ⟨b, hab, hba⟩ := TransGen.head'_iff.mp hc
    exact ⟨b, hab, a, hba, hc⟩
  · exact ⟨b, hab, x, hbx, hc⟩

/-- A circle that can be reached can be reached in every wider relation. -/
theorem ReachesCircle.mono (h : ReachesCircle R a) (hRS : ∀ a b, R a b → S a b) : ReachesCircle S a := by
  obtain ⟨x, hx, hc⟩ := h
  exact ⟨x, ReflTransGen.mono hRS a x hx, TransGen.mono hRS x x hc⟩

theorem Ends.intro (h : ∀ b, R a b → Ends R b) : Ends R a :=
  Acc.intro a h

theorem Ends.not_reachesCircle (h : Ends R a) : ¬ ReachesCircle R a := by
  induction h with
  | intro a _ ih =>
    intro hc
    obtain ⟨b, hab, hb⟩ := hc.exists_next
    exact ih b hab hb

/-- If the successors that `R` has beyond `S` all end, then what ends along `S` ends along `R`. -/
theorem Ends.of_beyond (h : Ends S a) (hbeyond : ∀ x y, R x y → ¬ S x y → Ends R y) : Ends R a := by
  induction h with
  | intro a _ ih =>
    refine Ends.intro fun b hab => ?_
    by_cases hs : S a b
    · exact ih b hs
    · exact hbeyond a b hab hs

/-! ### Paths that close -/

/-- A path that closes: it ends where it starts, follows the relation, and meets no other id twice. -/
structure IsCircle (R : String → String → Prop) (p : List String) : Prop where
  closes : ∃ a mid, p = a :: mid ++ [a] ∧ (a :: mid).Nodup
  follows : p.IsChain R

theorem reach_of_chain : ∀ (a : String) (p : List String), (a :: p).IsChain R →
    ∀ b ∈ a :: p, ReflTransGen R a b
  | a, [], _, b, hb => by
    rw [List.mem_singleton] at hb
    subst hb
    exact ReflTransGen.refl
  | a, c :: p, h, b, hb => by
    obtain ⟨hac, hcp⟩ := List.isChain_cons_cons.mp h
    rcases List.mem_cons.mp hb with rfl | hb
    · exact ReflTransGen.refl
    · exact ReflTransGen.head hac (reach_of_chain c p hcp b hb)

/-- The start of a closed path lies on a circle. -/
theorem IsCircle.transGen (h : IsCircle R p) : ∃ a, p.head? = some a ∧ TransGen R a a := by
  obtain ⟨a, mid, rfl, -⟩ := h.closes
  have hchain := h.follows
  refine ⟨a, rfl, ?_⟩
  cases mid with
  | nil =>
    exact TransGen.single (List.isChain_cons_cons.mp hchain).1
  | cons b mid =>
    obtain ⟨hab, hrest⟩ := List.isChain_cons_cons.mp hchain
    exact TransGen.head' hab (reach_of_chain b (mid ++ [a]) hrest a (by simp))

theorem IsCircle.imp (h : IsCircle R p) (hRS : ∀ a b, R a b → S a b) : IsCircle S p :=
  ⟨h.closes, h.follows.imp hRS⟩

end Circles

end WorkflowCheck
