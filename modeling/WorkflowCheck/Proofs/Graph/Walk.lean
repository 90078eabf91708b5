import Mathlib.Data.List.Nodup
import WorkflowCheck.Proofs.Graph.Reach

/-!
# What a walk finds

A walk with the ids `seen` met before it enters none of those but its root: the others are *blocked*.
`Inv` is what every step keeps.  Its heart is `Frames`: the successors that an id on the path has tried
so far have all been *passed*, that is, they are blocked or no endless walk starts at them.  So an id
that leaves the path has only passed successors and is passed itself, and a walk that leaves its root
has met no circle.  A walk that stops before that closes a circle of the path (`Inv.isCircle`).

`outcome_fromRoot` collects what is known when the walk is over.
-/

namespace WorkflowCheck.Walk

open Relation

/-! ### Passed ids -/

/-- An id that a walk does not enter, because it was met before. -/
def Blocked (root : String) (seen : List String) (x : String) : Prop :=
  x ∈ seen ∧ x ≠ root

/-- An edge that a walk can follow. -/
def Open (g : Adjacency) (root : String) (seen : List String) (a b : String) : Prop :=
  g.Edge a b ∧ ¬ Blocked root seen b

/-- An id that a walk is done with: it was met, and it is blocked, or every walk from it ends and all
its successors were met too. -/
def Passed (g : Adjacency) (root : String) (seen visited : List String) (x : String) : Prop :=
  x ∈ visited ∧
    (Blocked root seen x ∨ Ends (Open g root seen) x ∧ ∀ y, g.Edge x y → y ∈ visited)

section Frames

variable {g : Adjacency} {root : String} {seen : List String}

theorem Passed.mono {visited visited' : List String} {x : String}
    (hsub : ∀ y ∈ visited, y ∈ visited') (h : Passed g root seen visited x) :
    Passed g root seen visited' x := by
  refine ⟨hsub x h.1, ?_⟩
  rcases h.2 with hb | ⟨he, hv⟩
  · exact Or.inl hb
  · exact Or.inr ⟨he, fun y hy => hsub y (hv y hy)⟩

/-- An id whose successors are all passed is passed when it was met. -/
theorem Passed.of_successors {visited : List String} {x : String} (hx : x ∈ visited)
    (h : ∀ y, g.Edge x y → Passed g root seen visited y) : Passed g root seen visited x := by
  refine ⟨hx, Or.inr ⟨Ends.intro fun y hy => ?_, fun y hy => (h y hy).1⟩⟩
  rcases (h y hy.1).2 with hb | ⟨he, -⟩
  · exact absurd hb hy.2
  · exact he

/-! ### The path and what is pending -/

/-- Below the id `next` of a path: each id was left for the one above it after it had tried only ids
with `P`, and what is pending of it comes behind that one. -/
def Suspended (g : Adjacency) (P : String → Prop) : String → List String → List (List String) → Prop
  | _, [], [] => True
  | next, id :: path, rest :: pending =>
    (∃ tried, g.successors id = tried ++ next :: rest ∧ ∀ x ∈ tried, P x) ∧
      Suspended g P id path pending
  | _, _, _ => False

/-- The path as a whole: its end has tried only ids with `P`, and the others are suspended. -/
def Frames (g : Adjacency) (P : String → Prop) : List String → List (List String) → Prop
  | [], [] => True
  | id :: path, rest :: pending =>
    (∃ tried, g.successors id = tried ++ rest ∧ ∀ x ∈ tried, P x) ∧ Suspended g P id path pending
  | _, _ => False

variable {P Q : String → Prop}

theorem Suspended.mono (hPQ : ∀ x, P x → Q x) :
    ∀ (next : String) (path : List String) (pending : List (List String)),
      Suspended g P next path pending → Suspended g Q next path pending
  | _, [], [], _ => trivial
  | _, id :: path, rest :: pending, h => by
    obtain ⟨⟨tried, heq, hP⟩, hbelow⟩ := h
    exact ⟨⟨tried, heq, fun x hx => hPQ x (hP x hx)⟩, Suspended.mono hPQ id path pending hbelow⟩

/-- A path goes against the edges from its end back to its root. -/
theorem Suspended.isChain :
    ∀ (next : String) (path : List String) (pending : List (List String)),
      Suspended g P next path pending → (next :: path).IsChain fun b a => g.Edge a b
  | next, [], [], _ => List.isChain_singleton next
  | next, id :: path, rest :: pending, h => by
    obtain ⟨⟨tried, heq, -⟩, hbelow⟩ := h
    refine List.isChain_cons_cons.mpr ⟨?_, Suspended.isChain id path pending hbelow⟩
    rw [Adjacency.Edge, heq]
    simp

/-- When the id at the end of a path has `P`, the path without it is in order again. -/
theorem Suspended.frames {next : String} (hnext : P next) :
    ∀ {path : List String} {pending : List (List String)},
      Suspended g P next path pending → Frames g P path pending
  | [], [], _ => trivial
  | id :: path, rest :: pending, h => by
    obtain ⟨⟨tried, heq, hP⟩, hbelow⟩ := h
    refine ⟨⟨tried ++ [next], by rw [heq]; simp, fun x hx => ?_⟩, hbelow⟩
    rcases List.mem_append.mp hx with hx | hx
    · exact hP x hx
    · rw [List.mem_singleton] at hx
      subst hx
      exact hnext

theorem Frames.exists_path {rest : List String} :
    ∀ {path : List String} {pending : List (List String)}, Frames g P path (rest :: pending) →
      ∃ id below, path = id :: below ∧
        (∃ tried, g.successors id = tried ++ rest ∧ ∀ x ∈ tried, P x) ∧
        Suspended g P id below pending
  | id :: below, _, h => ⟨id, below, rfl, h.1, h.2⟩

/-- A path whose end is about to try `next` is suspended below it. -/
theorem Frames.suspended {next : String} {others : List String} :
    ∀ {path : List String} {pending : List (List String)},
      Frames g P path ((next :: others) :: pending) → Suspended g P next path (others :: pending)
  | _ :: _, _, h => h

end Frames

/-! ### What every step keeps -/

/-- What holds of a walk from `root` at every step. -/
structure Inv (g : Adjacency) (root : String) (seen : List String) (w : Walk) : Prop where
  frames : Frames g (Passed g root seen w.visited) w.path w.pending
  nodup : w.path.Nodup
  start : ∀ x ∈ w.path.getLast?, x = root
  onPath : ∀ x, x ∈ w.onPath ↔ x ∈ w.path
  met : ∀ x ∈ w.path, x ∈ w.visited
  unblocked : ∀ x ∈ w.path, ¬ Blocked root seen x
  rooted : root ∈ w.visited
  kept : ∀ x ∈ seen, x ∈ w.visited
  reached : ∀ x ∈ w.visited, x ∈ seen ∨ ReflTransGen (Open g root seen) root x
  passed : ∀ x ∈ w.visited, x ∈ w.path ∨ Passed g root seen w.visited x

namespace Inv

variable {g : Adjacency} {root : String} {seen : List String} {w : Walk}

theorem init (g : Adjacency) (root : String) (seen : List String) :
    Inv g root seen (Walk.start g root seen) where
  frames := ⟨⟨[], rfl, by simp⟩, trivial⟩
  nodup := List.nodup_singleton root
  start := by simp [Walk.start]
  onPath := fun _ => Iff.rfl
  met := by simp [Walk.start]
  unblocked := by simp [Walk.start, Blocked]
  rooted := by simp [Walk.start]
  kept := fun x hx => List.mem_cons_of_mem root hx
  reached := by
    intro x hx
    rcases List.mem_cons.mp hx with rfl | hx
    · exact Or.inr ReflTransGen.refl
    · exact Or.inl hx
  passed := by
    intro x hx
    by_cases hr : x = root
    · exact Or.inl (List.mem_singleton.mpr hr)
    · have hseen : x ∈ seen := (List.mem_cons.mp hx).resolve_left hr
      exact Or.inr ⟨hx, Or.inl ⟨hseen, hr⟩⟩

/-- The path can be reached from the root without entering a blocked id. -/
theorem reach (h : Inv g root seen w) {x : String} (hx : x ∈ w.path) :
    ReflTransGen (Open g root seen) root x := by
  rcases h.reached x (h.met x hx) with hs | hr
  · have hroot : x = root := by
      by_contra hne
      exact h.unblocked x hx ⟨hs, hne⟩
    rw [hroot]
  · exact hr

/-- The end of the path has tried all its successors and leaves it. -/
theorem back {rest : List (List String)} (h : Inv g root seen w) (hp : w.pending = [] :: rest) :
    Inv g root seen (w.back rest) := by
  have hf := h.frames
  rw [hp] at hf
  obtain ⟨id, below, hpath, ⟨tried, heq, htried⟩, hbelow⟩ := hf.exists_path
  have hback : (w.back rest).path = below := by simp [Walk.back, hpath]
  have hnodup := h.nodup
  rw [hpath, List.nodup_cons] at hnodup
  have hid : id ∈ w.path := by simp [hpath]
  have hmem : ∀ x ∈ below, x ∈ w.path := fun x hx => by simp [hpath, hx]
  have hpassed : Passed g root seen w.visited id := by
    refine Passed.of_successors (h.met id hid) fun y hy => htried y ?_
    rwa [Adjacency.Edge, heq, List.append_nil] at hy
  refine ⟨?_, ?_, ?_, ?_, ?_, ?_, h.rooted, h.kept, h.reached, ?_⟩
  · rw [hback]
    exact hbelow.frames hpassed
  · rw [hback]
    exact hnodup.2
  · rw [hback]
    intro x hx
    refine h.start x ?_
    rw [hpath]
    show x ∈ ([id] ++ below).getLast?
    exact List.mem_getLast?_append_of_mem_getLast? hx
  · intro x
    rw [hback]
    simp only [Walk.back, List.mem_filter, h.onPath, hpath, List.head?_cons, List.mem_cons,
      ne_eq, Option.some.injEq, decide_not, Bool.not_eq_eq_eq_not, Bool.not_true,
      decide_eq_false_iff_not]
    constructor
    · rintro ⟨rfl | hx, hne⟩
      · exact absurd rfl hne
      · exact hx
    · intro hx
      refine ⟨Or.inr hx, ?_⟩
      rintro rfl
      exact hnodup.1 hx
  · intro x hx
    rw [hback] at hx
    exact h.met x (hmem x hx)
  · intro x hx
    rw [hback] at hx
    exact h.unblocked x (hmem x hx)
  · intro x hx
    rw [hback]
    rcases h.passed x hx with hin | hdone
    · rw [hpath] at hin
      rcases List.mem_cons.mp hin with rfl | hin
      · exact Or.inr hpassed
      · exact Or.inl hin
    · exact Or.inr hdone

/-- A successor that was met and is not on the path is passed over. -/
theorem skip {next : String} {others : List String} {rest : List (List String)}
    (h : Inv g root seen w) (hp : w.pending = (next :: others) :: rest) (hoff : next ∉ w.onPath)
    (hmet : next ∈ w.visited) : Inv g root seen (w.skip others rest) := by
  have hf := h.frames
  rw [hp] at hf
  have hpassed : Passed g root seen w.visited next := by
    refine (h.passed next hmet).resolve_left fun hin => hoff ?_
    exact (h.onPath next).mpr hin
  refine ⟨?_, h.nodup, h.start, h.onPath, h.met, h.unblocked, h.rooted, h.kept, h.reached,
    h.passed⟩
  exact hf.suspended.frames hpassed

/-- A successor that was not met yet is entered. -/
theorem enter {next : String} {others : List String} {rest : List (List String)}
    (h : Inv g root seen w) (hp : w.pending = (next :: others) :: rest)
    (hnew : next ∉ w.visited) : Inv g root seen (w.enter g next others rest) := by
  have hf := h.frames
  rw [hp] at hf
  have hfree : ¬ Blocked root seen next := fun hb => hnew (h.kept next hb.1)
  have hmono : ∀ x, Passed g root seen w.visited x →
      Passed g root seen (w.enter g next others rest).visited x :=
    fun x hx => hx.mono fun y hy => List.mem_cons_of_mem next hy
  have hlast : (next :: w.path).getLast? = w.path.getLast? := by
    obtain ⟨id, below, hpath, -⟩ := hf.exists_path
    rw [hpath, List.getLast?_cons_cons]
  refine ⟨?_, ?_, ?_, ?_, ?_, ?_, ?_, ?_, ?_, ?_⟩
  · exact ⟨⟨[], rfl, by simp⟩, Suspended.mono hmono next w.path _ hf.suspended⟩
  · exact List.nodup_cons.mpr ⟨fun hin => hnew (h.met next hin), h.nodup⟩
  · intro x hx
    exact h.start x (hlast ▸ hx)
  · intro x
    simp only [Walk.enter, List.mem_cons, h.onPath]
  · intro x hx
    rcases List.mem_cons.mp hx with rfl | hx
    · exact List.mem_cons_self
    · exact List.mem_cons_of_mem next (h.met x hx)
  · intro x hx
    rcases List.mem_cons.mp hx with rfl | hx
    · exact hfree
    · exact h.unblocked x hx
  · exact List.mem_cons_of_mem next h.rooted
  · exact fun x hx => List.mem_cons_of_mem next (h.kept x hx)
  · intro x hx
    rcases List.mem_cons.mp hx with rfl | hx
    · obtain ⟨id, below, hpath, ⟨tried, heq, -⟩, -⟩ := hf.exists_path
      have hedge : g.Edge id x := by
        rw [Adjacency.Edge, heq]
        simp
      exact Or.inr (ReflTransGen.tail (h.reach (by simp [hpath])) ⟨hedge, hfree⟩)
    · exact h.reached x hx
  · intro x hx
    rcases List.mem_cons.mp hx with rfl | hx
    · exact Or.inl List.mem_cons_self
    · rcases h.passed x hx with hin | hdone
      · exact Or.inl (List.mem_cons_of_mem next hin)
      · exact Or.inr (hmono x hdone)

/-! ### The circle that is closed -/

theorem circle_append {before after : List String} {next : String} (h : next ∉ after) :
    circle (before ++ next :: after) next = next :: before.reverse ++ [next] := by
  unfold circle
  have hskip : ∀ x ∈ after.reverse, (decide (x ≠ next)) = true := by
    intro x hx
    rw [decide_eq_true_iff]
    rintro rfl
    exact h (List.mem_reverse.mp hx)
  rw [List.reverse_append, List.reverse_cons, List.append_assoc,
    List.dropWhile_append_of_pos hskip]
  simp

/-- A successor on the path closes a circle, all of which is on the path. -/
theorem isCircle {next : String} {others : List String} {rest : List (List String)}
    (h : Inv g root seen w) (hp : w.pending = (next :: others) :: rest) (hon : next ∈ w.onPath) :
    IsCircle (Open g root seen) (circle w.path next) ∧ ∀ x ∈ circle w.path next, x ∈ w.path := by
  have hf := h.frames
  rw [hp] at hf
  obtain ⟨before, after, hpath⟩ := List.append_of_mem ((h.onPath next).mp hon)
  have hnodup := h.nodup
  rw [hpath] at hnodup
  have hafter : next ∉ after := (List.nodup_cons.mp (List.nodup_append.mp hnodup).2.1).1
  have hmem : ∀ x ∈ next :: before.reverse ++ [next], x ∈ w.path := by
    intro x hx
    rw [hpath]
    simp only [List.cons_append, List.mem_cons, List.mem_append, List.mem_reverse,
      List.not_mem_nil, or_false] at hx ⊢
    tauto
  have hchain : (next :: before.reverse ++ [next]).IsChain g.Edge := by
    have hc := hf.suspended.isChain
    rw [hpath, List.isChain_cons_split] at hc
    have hrev := List.isChain_reverse.mpr hc.1
    simpa using hrev
  rw [hpath, circle_append hafter, ← hpath]
  refine ⟨⟨⟨next, before.reverse, rfl, ?_⟩, ?_⟩, hmem⟩
  · rw [List.nodup_cons, List.mem_reverse, List.nodup_reverse]
    have hmid := List.nodup_middle.mp hnodup
    rw [List.nodup_cons, List.mem_append] at hmid
    exact ⟨fun hin => hmid.1 (Or.inl hin), (List.nodup_append.mp hmid.2).1⟩
  · refine List.IsChain.imp_of_mem_imp (fun a b _ hb hab => ⟨hab, ?_⟩) hchain
    exact h.unblocked b (hmem b hb)

end Inv

/-! ### The whole walk -/

/-- What is known of the result of a walk from `root`. -/
structure Outcome (g : Adjacency) (root : String) (seen : List String) (r : WalkResult) : Prop where
  rooted : root ∈ r.visited
  kept : ∀ x ∈ seen, x ∈ r.visited
  reached : ∀ x ∈ r.visited, x ∈ seen ∨ ReflTransGen (Open g root seen) root x
  passed : r.cycle = none → ∀ x ∈ r.visited, Passed g root seen r.visited x
  circle : ∀ p ∈ r.cycle, IsCircle (Open g root seen) p ∧
    ∀ x ∈ p, x ∈ r.visited ∧ ¬ Blocked root seen x ∧ ReflTransGen (Open g root seen) root x

section Whole

variable {g : Adjacency} {root : String} {seen : List String}

theorem Inv.path_eq_nil {w : Walk} (h : Inv g root seen w) (hp : w.pending = []) :
    w.path = [] := by
  have hf := h.frames
  rw [hp] at hf
  cases hpath : w.path with
  | nil => rfl
  | cons id below =>
    rw [hpath] at hf
    exact hf.elim

/-- A walk that keeps the invariant to its end comes to what `Outcome` says. -/
theorem outcome_run (w : Walk) (h : Inv g root seen w) : Outcome g root seen (run g w) := by
  fun_induction run g w with
  | case1 w hp =>
    refine ⟨h.rooted, h.kept, h.reached, fun _ x hx => ?_, by simp⟩
    rcases h.passed x hx with hin | hdone
    · rw [h.path_eq_nil hp] at hin
      exact absurd hin List.not_mem_nil
    · exact hdone
  | case2 w rest hp ih => exact ih (h.back hp)
  | case3 w next others rest hp hon =>
    obtain ⟨hcircle, hmem⟩ := h.isCircle hp hon
    refine ⟨h.rooted, h.kept, h.reached, by simp, ?_⟩
    intro p hcycle
    obtain rfl : Walk.circle w.path next = p := by simpa using hcycle
    exact ⟨hcircle, fun x hx =>
      ⟨h.met x (hmem x hx), h.unblocked x (hmem x hx), h.reach (hmem x hx)⟩⟩
  | case4 w next others rest hp hoff hmet ih => exact ih (h.skip hp hoff hmet)
  | case5 w next others rest hp _ hnew ih => exact ih (h.enter hp hnew)

theorem outcome_fromRoot (g : Adjacency) (root : String) (seen : List String) :
    Outcome g root seen (fromRoot g root seen) :=
  outcome_run _ (Inv.init g root seen)

end Whole

end WorkflowCheck.Walk
