import Mathlib.Data.List.Nodup
import Mathlib.Data.List.Perm.Basic
import WorkflowCheck.Rules.Node

/-!
# Pairs of nodes that lie over one another

Each node is compared with all others, and a pair is reported from one of its two nodes, which the places
of the two in their list decide.  So the issues of overlaps are those of the pairs of an earlier and a later
node that clash, one for each (`overlaps_perm_pairs`), and how many they are does not depend on the order
of the nodes (`countP_pairs_perm`).
-/

namespace WorkflowCheck

open scoped List

/-! ### Pairs of a list -/

section Pairs

variable {α β : Type}

/-- The pairs of an earlier and a later element of a list. -/
def pairs : List α → List (α × α)
  | [] => []
  | a :: as => as.map (fun b => (a, b)) ++ pairs as

theorem forall_mem_pairs {R : α → α → Prop} :
    ∀ {as : List α}, as.Pairwise R → ∀ p ∈ pairs as, R p.1 p.2
  | [], _ => List.forall_mem_nil _
  | a :: as, h => by
    obtain ⟨hfirst, hrest⟩ := List.pairwise_cons.mp h
    rw [pairs, List.forall_mem_append]
    exact ⟨List.forall_mem_map.mpr hfirst, forall_mem_pairs hrest⟩

/-- In a list that an asymmetric relation orders, the pairs are those of elements that it relates. -/
theorem mem_pairs_iff {R : α → α → Prop} (hasymm : ∀ a b, R a b → ¬ R b a) {m n : α} :
    ∀ {as : List α}, as.Pairwise R → ((m, n) ∈ pairs as ↔ m ∈ as ∧ n ∈ as ∧ R m n)
  | [], _ => by simp [pairs]
  | a :: as, h => by
    obtain ⟨hfirst, hrest⟩ := List.pairwise_cons.mp h
    rw [pairs, List.mem_append, List.mem_map, mem_pairs_iff hasymm hrest]
    constructor
    · rintro (⟨b, hb, hpair⟩ | ⟨hm, hn, hmn⟩)
      · cases hpair
        exact ⟨List.mem_cons_self, List.mem_cons_of_mem _ hb, hfirst _ hb⟩
      · exact ⟨List.mem_cons_of_mem a hm, List.mem_cons_of_mem a hn, hmn⟩
    · rintro ⟨hm, hn, hmn⟩
      rcases List.mem_cons.mp hm with hma | hm
      · rcases List.mem_cons.mp hn with hna | hn
        · rw [hma, hna] at hmn
          exact absurd hmn (hasymm a a hmn)
        · exact Or.inl ⟨n, hn, by rw [hma]⟩
      · rcases List.mem_cons.mp hn with hna | hn
        · rw [hna] at hmn
          exact absurd hmn (hasymm a m (hfirst m hm))
        · exact Or.inr ⟨hm, hn, hmn⟩

/-- No pair comes twice. -/
theorem nodup_pairs {R : α → α → Prop} (hasymm : ∀ a b, R a b → ¬ R b a) :
    ∀ {as : List α}, as.Pairwise R → (pairs as).Nodup
  | [], _ => List.nodup_nil
  | a :: as, h => by
    obtain ⟨hfirst, hrest⟩ := List.pairwise_cons.mp h
    have hne : ∀ {m n}, R m n → m ≠ n := by
      rintro m _ hmn rfl
      exact hasymm m m hmn hmn
    have hnew : as.Nodup := hrest.imp hne
    have hpairs : (as.map fun b => (a, b)).Nodup := hnew.map fun b b' hbb => (Prod.mk.inj hbb).2
    rw [pairs, List.nodup_append]
    refine ⟨hpairs, nodup_pairs hasymm hrest, ?_⟩
    rintro p hp _ hlater rfl
    obtain ⟨b, -, rfl⟩ := List.mem_map.mp hp
    have haa : R a a := hfirst a ((mem_pairs_iff hasymm hrest).mp hlater).1
    exact hasymm a a haa haa

theorem pairs_map (f : α → β) :
    ∀ as : List α, pairs (as.map f) = (pairs as).map fun p => (f p.1, f p.2)
  | [] => rfl
  | a :: as => by
    rw [List.map_cons, pairs, pairs, pairs_map f as, List.map_append, List.map_map, List.map_map]
    rfl

/-- What each element gives with each element, if it gives nothing with itself, is what each pair gives in
its two orders. -/
theorem flatMap_perm_pairs {cell : α → α → Option β} :
    ∀ {as : List α}, (∀ a ∈ as, cell a a = none) →
      (as.flatMap fun a => as.filterMap (cell a)).Perm
        ((pairs as).flatMap fun p => (cell p.1 p.2).toList ++ (cell p.2 p.1).toList)
  | [], _ => .nil
  | a :: as, h => by
    have hrest := flatMap_perm_pairs fun b hb => h b (List.mem_cons_of_mem a hb)
    have hself : cell a a = none := h a List.mem_cons_self
    have hcons : ∀ b, (a :: as).filterMap (cell b) = (cell b a).toList ++ as.filterMap (cell b) := by
      intro b
      rw [List.filterMap_cons]
      cases cell b a <;> rfl
    have hpairs : ((pairs (a :: as)).flatMap fun p => (cell p.1 p.2).toList ++ (cell p.2 p.1).toList) =
        (as.flatMap fun b => (cell a b).toList ++ (cell b a).toList) ++
          (pairs as).flatMap fun p => (cell p.1 p.2).toList ++ (cell p.2 p.1).toList := by
      rw [pairs, List.flatMap_append, List.flatMap_map]
    rw [List.flatMap_cons, hcons, hself, Option.toList_none, List.nil_append, hpairs]
    simp only [hcons]
    -- the row and the column of the head are its pairs in both orders, and the rest is the tail's own
    calc as.filterMap (cell a) ++ as.flatMap (fun b => (cell b a).toList ++ as.filterMap (cell b))
        _ ~ as.filterMap (cell a) ++ (as.flatMap (fun b => (cell b a).toList) ++
            as.flatMap fun b => as.filterMap (cell b)) :=
          (List.flatMap_append_perm as _ _).symm.append_left _
        _ = (as.flatMap (fun b => (cell a b).toList) ++ as.flatMap fun b => (cell b a).toList) ++
            as.flatMap fun b => as.filterMap (cell b) := by
          rw [List.filterMap_eq_flatMap_toList, List.append_assoc]
        _ ~ _ := (List.flatMap_append_perm as _ _).append hrest

/-- As many pairs pass a symmetric test in any order of the list. -/
theorem countP_pairs_perm {test : α → α → Bool} (hsymm : ∀ a b, test a b = test b a) {as bs : List α}
    (h : as.Perm bs) :
    (pairs as).countP (fun p => test p.1 p.2) = (pairs bs).countP fun p => test p.1 p.2 := by
  have hcons : ∀ (a : α) (as : List α), (pairs (a :: as)).countP (fun p => test p.1 p.2) =
      as.countP (test a) + (pairs as).countP fun p => test p.1 p.2 := by
    intro a as
    rw [pairs, List.countP_append, List.countP_map]
    rfl
  induction h with
  | nil => rfl
  | cons a hperm ih => rw [hcons, hcons, hperm.countP_eq, ih]
  | swap a b as =>
    -- the only case that turns a pair around
    rw [hcons, hcons, hcons, hcons, List.countP_cons, List.countP_cons, hsymm b a]
    omega
  | trans _ _ ih ih' => exact ih.trans ih'

end Pairs

/-! ### Clashes -/

section Clashes

variable {m n : RawNode} {s : Snapshot}

/-- Both nodes are somewhere, and they lie over one another. -/
def lieOver (m n : RawNode) : Bool :=
  match m.coordinates?, n.coordinates? with
  | some a, some b => overlaps a b
  | _, _ => false

/-- The nodes have different ids and lie over one another. -/
def clash (m n : RawNode) : Bool :=
  decide (m.id ≠ n.id) && lieOver m n

theorem overlaps_comm (a b : Double × Double) : overlaps a b = overlaps b a := by
  rw [overlaps, overlaps, Bool.and_comm (a.1.below _), Bool.and_assoc, Bool.and_comm (a.2.below _),
    ← Bool.and_assoc]

theorem lieOver_comm (m n : RawNode) : lieOver m n = lieOver n m := by
  rw [lieOver, lieOver]
  cases m.coordinates? with
  | none => cases n.coordinates? <;> rfl
  | some a =>
    cases n.coordinates? with
    | none => rfl
    | some b => exact overlaps_comm a b

theorem clash_comm (m n : RawNode) : clash m n = clash n m := by
  rw [clash, clash, lieOver_comm, decide_eq_decide.mpr ne_comm]

/-- The issue of a pair of nodes, if it is reported from the first of them. -/
def clashFrom? (n other : RawNode) : Option Issue :=
  n.id.bind fun id => if reportsPair n other && clash n other then some (overlapIssue id other) else none

/-- The issue of an earlier and a later node that clash: from the earlier one if it has an id, and from the
later one otherwise. -/
def pairIssue? (m n : RawNode) : Option Issue :=
  if clash m n then
    (m.id.map fun id => overlapIssue id n).or (n.id.map fun id => overlapIssue id m)
  else none

/-- Issues of the overlaps of a node, which has none if it has no id. -/
def nodeOverlaps (s : Snapshot) (n : RawNode) : List Issue :=
  match n.id with
  | none => []
  | some id => overlapIssues s n id

theorem nodeOverlaps_eq : nodeOverlaps s n = s.nodes.filterMap (clashFrom? n) := by
  rw [nodeOverlaps]
  cases hid : n.id with
  | none =>
    refine (List.filterMap_eq_nil_iff.mpr fun other _ => ?_).symm
    rw [clashFrom?, hid, Option.bind_none]
  | some id =>
    show overlapIssues s n id = _
    have hcell : ∀ other, clashFrom? n other =
        if reportsPair n other && (decide (n.id ≠ other.id) && lieOver n other) then
          some (overlapIssue id other) else none := by
      intro other
      rw [clashFrom?, hid]
      simp only [Option.bind_some, clash, hid]
    rw [overlapIssues]
    cases hn : n.coordinates? with
    | none =>
      refine (List.filterMap_eq_nil_iff.mpr fun other _ => ?_).symm
      rw [hcell, lieOver, hn]
      simp
    | some here =>
      refine List.filterMap_congr fun other _ => ?_
      rw [hcell, lieOver, hn, hid]
      cases other.coordinates? with
      | none => simp
      | some there =>
        have hne : (!(other.id == some id)) = decide (some id ≠ other.id) := by
          rw [beq_eq_decide, ← decide_not]
          exact decide_eq_decide.mpr ne_comm
        show (if reportsPair n other && !(other.id == some id) && overlaps here there then
          some (overlapIssue id other) else none) = _
        rw [hne, Bool.and_assoc]

/-- No node is compared with itself. -/
theorem clashFrom?_self (n : RawNode) : clashFrom? n n = none := by
  rw [clashFrom?, reportsPair, beq_self_eq_true]
  cases n.id <;> rfl

/-- A pair is reported from just one of its nodes. -/
theorem clashFrom?_both (h : m.index < n.index) :
    (clashFrom? m n).toList ++ (clashFrom? n m).toList = (pairIssue? m n).toList := by
  have hm : reportsPair m n = true := by
    have hne : (n.index == m.index) = false := beq_false_of_ne (Nat.ne_of_gt h)
    have hnot : decide (n.index < m.index) = false := decide_eq_false (Nat.lt_asymm h)
    rw [reportsPair, hne, hnot, Bool.false_and]
    rfl
  -- the later node reports the pair only in place of an earlier one without an id
  have hn : reportsPair n m = m.id.isNone := by
    have hne : (m.index == n.index) = false := beq_false_of_ne (Nat.ne_of_lt h)
    rw [reportsPair, hne, decide_eq_true h]
    cases m.id <;> rfl
  rw [clashFrom?, clashFrom?, pairIssue?, hm, hn, clash_comm n m]
  cases hclash : clash m n with
  | false => cases m.id <;> cases n.id <;> simp
  | true => cases m.id <;> cases n.id <;> simp

/-- A pair is reported exactly if it clashes, since two different ids are not both absent. -/
theorem isSome_pairIssue? (m n : RawNode) : (pairIssue? m n).isSome = clash m n := by
  rw [pairIssue?]
  cases hclash : clash m n with
  | false => rfl
  | true =>
    have hne : m.id ≠ n.id := of_decide_eq_true (Bool.and_eq_true_iff.mp hclash).1
    cases hm : m.id with
    | some id => rfl
    | none =>
      cases hn : n.id with
      | some id => rfl
      | none => exact absurd (hm.trans hn.symm) hne

/-- The issues of overlaps are those of the pairs of an earlier and a later node. -/
theorem overlaps_perm_pairs (h : s.nodes.Pairwise fun m n => m.index < n.index) :
    (s.nodes.flatMap (nodeOverlaps s)).Perm ((pairs s.nodes).filterMap fun p => pairIssue? p.1 p.2) := by
  have hboth : ((pairs s.nodes).flatMap fun p =>
      (clashFrom? p.1 p.2).toList ++ (clashFrom? p.2 p.1).toList) =
      (pairs s.nodes).filterMap fun p => pairIssue? p.1 p.2 := by
    rw [List.filterMap_eq_flatMap_toList]
    exact List.flatMap_congr fun p hp => clashFrom?_both (forall_mem_pairs h p hp)
  have hcells : nodeOverlaps s = fun n => s.nodes.filterMap (clashFrom? n) :=
    funext fun n => nodeOverlaps_eq
  rw [← hboth, hcells]
  exact flatMap_perm_pairs fun n _ => clashFrom?_self n

theorem length_flatMap_nodeOverlaps (h : s.nodes.Pairwise fun m n => m.index < n.index) :
    (s.nodes.flatMap (nodeOverlaps s)).length = (pairs s.nodes).countP fun p => clash p.1 p.2 := by
  rw [(overlaps_perm_pairs h).length_eq, List.length_filterMap_eq_countP]
  simp only [isSome_pairIssue?]

end Clashes

end WorkflowCheck
