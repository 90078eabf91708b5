import Mathlib.Algebra.BigOperators.Group.List.Basic
import Mathlib.Data.Finset.Card
import WorkflowCheck.Proofs.Lint.MoreEdges
import WorkflowCheck.Proofs.Lint.Saved

/-!
# What the statistics of a flow count

The table of the types of nodes is a tally (`Table.Tallies`): it lists the types that occur, each once and
with the number of its nodes, and the numbers add up to all nodes.  The isolated nodes are counted by their
ids, and a run over the flow warns of them node by node; the ids that it warns of are as many as are counted
(`Flow.statistics_reported`).
-/

namespace WorkflowCheck

/-! ### Tallies -/

namespace Table

variable {κ : Type} [DecidableEq κ] {t : Table κ Nat} {ks : List κ}

/-- The table lists what occurs in a list, each once and with the number of times that it occurs. -/
structure Tallies (t : Table κ Nat) (ks : List κ) : Prop where
  nodup : t.keys.Nodup
  keys : ∀ k, k ∈ t.keys ↔ k ∈ ks
  counts : ∀ k, (t.get? k).getD 0 = ks.count k
  total : (t.map (·.2)).sum = ks.length

theorem tallies_nil : Tallies ([] : Table κ Nat) [] :=
  ⟨List.nodup_nil, fun _ => Iff.rfl, fun _ => rfl, rfl⟩

/-- One more of a key makes the sum of all counts one higher. -/
theorem sum_count (k : κ) : ∀ t : Table κ Nat, ((t.count k).map (·.2)).sum = (t.map (·.2)).sum + 1
  | [] => rfl
  | e :: t => by
    have ih := sum_count k t
    rw [count] at ih ⊢
    rw [alter]
    split
    · simp only [Option.getD_some, List.map_cons, List.sum_cons]
      omega
    · simp only [List.map_cons, List.sum_cons, ih]
      omega

/-- A tally of a list becomes one of the list with a further member when that is counted. -/
theorem Tallies.count (h : t.Tallies ks) (k : κ) : (t.count k).Tallies (ks ++ [k]) where
  nodup := by
    rw [Table.count, keys_alter]
    split
    case isTrue => exact h.nodup
    case isFalse hnew =>
      rw [← List.concat_eq_append]
      exact h.nodup.concat hnew
  keys := by
    intro k'
    rw [Table.count, keys_alter, List.mem_append, List.mem_singleton, ← h.keys]
    split
    case isTrue hold =>
      refine (or_iff_left_of_imp ?_).symm
      rintro rfl
      exact hold
    case isFalse => rw [List.mem_append, List.mem_singleton]
  counts := by
    intro k'
    rw [Table.count, List.count_append, ← h.counts]
    by_cases hk : k = k'
    · subst hk
      simp
    · rw [get?_alter_of_ne hk, List.count_singleton, if_neg (by simpa using hk), Nat.add_zero]
  total := by
    rw [sum_count, h.total, List.length_append, List.length_singleton]

/-- Counting the members of a list one after the other tallies it. -/
theorem Tallies.foldl {α : Type} {key : α → κ} :
    ∀ {as : List α} {t : Table κ Nat} {ks : List κ}, t.Tallies ks →
      (as.foldl (fun t a => t.count (key a)) t).Tallies (ks ++ as.map key)
  | [], _, ks, h => by rwa [List.map_nil, List.append_nil]
  | a :: as, t, ks, h => by
    have hrest : (as.foldl (fun t a => t.count (key a)) (t.count (key a))).Tallies
        (ks ++ [key a] ++ as.map key) := (h.count (key a)).foldl
    rwa [List.append_assoc] at hrest

theorem Tallies.count_eq (h : t.Tallies ks) : ∀ e ∈ t, e.2 = ks.count e.1 := by
  intro e he
  rw [← h.counts, get?_of_mem h.nodup he, Option.getD_some]

theorem Tallies.positive (h : t.Tallies ks) : ∀ e ∈ t, 0 < e.2 := by
  intro e he
  rw [h.count_eq e he, List.count_pos_iff, ← h.keys]
  exact List.mem_map_of_mem he

end Table

/-! ### Different members of a list -/

theorem nodup_eraseDups {α : Type} [DecidableEq α] : ∀ as : List α, as.eraseDups.Nodup
  | [] => List.nodup_nil
  | a :: as => by
    rw [List.eraseDups_cons]
    refine List.nodup_cons.mpr ⟨?_, nodup_eraseDups _⟩
    simp [List.mem_eraseDups]
termination_by as => as.length
decreasing_by exact Nat.lt_succ_of_le (List.length_filter_le _ as)

/-- The members of a kind are as many as the list without repetitions has. -/
theorem length_filter_eraseDups {α : Type} [DecidableEq α] (p : α → Bool) (as : List α) :
    (as.eraseDups.filter p).length = (as.filter p).toFinset.card := by
  rw [← List.toFinset_card_of_nodup ((nodup_eraseDups as).filter p)]
  refine congrArg Finset.card (Finset.ext fun a => ?_)
  simp [List.mem_eraseDups]

/-! ### Isolated nodes -/

namespace Flow

variable {x : Flow}

/-- The tally of the types is that of the nodes. -/
theorem tallies_nodeTypes (x : Flow) : x.statistics.nodeTypes.Tallies (x.nodes.map (·.type)) :=
  Table.tallies_nil.foldl

/-- A run takes the ends of edges that name something to be connected. -/
theorem connectedIds_storedWire (x : Flow) :
    (flowSnapshot x.storedWire).connectedIds = x.connectedIds.filter (· ≠ "") := by
  have hend : ∀ text : String, (Value.str text).filledText?.toList = [text].filter (· ≠ "") := by
    intro text
    by_cases h : text = ""
    · subst h
      rfl
    · rw [Value.filledText?_str h, List.filter_singleton, decide_eq_true h]
      rfl
  have hedges : (flowSnapshot x.storedWire).edges =
      readIndexed RawEdge.ofValue (x.edges.map (StoredEdge.write .wire)) :=
    congrArg (readIndexed RawEdge.ofValue) flowEdges_storedWire
  rw [Snapshot.connectedIds, hedges, connectedIds, List.filter_flatMap]
  refine flatMap_readIndexed x.edges fun index e _ => ?_
  rw [e.ofValue_write, hend, hend, ← List.filter_append]
  rfl

/-- The ids that a run over a flow of more than one node warns of as isolated are as many as the
statistics count. -/
theorem isolatedNodes_eq (hids : x.kept.HasIds) (hnodes : 2 ≤ x.nodes.length) :
    x.statistics.isolatedNodes =
      ((isolationIssues (flowSnapshot x.storedWire)).map (·.elementId)).toFinset.card := by
  have hlength : ¬ (flowSnapshot x.storedWire).nodes.length ≤ 1 := by
    have hle := List.length_filterMap_le (·.id) (flowSnapshot x.storedWire).nodes
    rw [nodeIds_storedWire hids, List.length_map] at hle
    omega
  have hwarned : ((x.nodes.map (·.id)).filter (· ∉ (flowSnapshot x.storedWire).connectedIds)) =
      (x.nodes.map (·.id)).filter (· ∉ x.connectedIds) := by
    refine List.filter_congr fun id hid => decide_eq_decide.mpr (not_congr ?_)
    have hfilled : id ≠ "" := fun h => empty_not_mem_nodes hids (h ▸ hid)
    rw [connectedIds_storedWire, List.mem_filter]
    exact and_iff_left (decide_eq_true hfilled)
  have helements : ∀ ids : List String, ((ids.map isolationIssue).map (·.elementId)).toFinset =
      ids.toFinset.image some := by
    intro ids
    rw [List.map_map]
    ext id
    simp [isolationIssue, Issue.ofElement]
  rw [isolationIssues, if_neg hlength, nodeIds_storedWire hids, hwarned, helements,
    Finset.card_image_of_injective _ (Option.some_injective String)]
  exact length_filter_eraseDups _ _

/-- **The statistics agree with the warnings.**  A flow in either view that has two nodes or more has a
report, and as many different ids are warned of as isolated as there are isolated nodes in the statistics.
The table of types is the tally of its nodes, with no count of zero. -/
theorem statistics_reported (x : Flow) (hids : x.kept.HasIds) (hnodes : 2 ≤ x.nodes.length) (r : Registry)
    (o : Options) (hmode : o.mode = .flow) :
    ∃ report, lint r o x.storedWire = .ok report ∧
      x.statistics.isolatedNodes = ((report.only .isolatedNode).map (·.elementId)).toFinset.card ∧
      (∀ type, type ∈ x.statistics.nodeTypes.keys ↔ ∃ n ∈ x.nodes, n.type = type) ∧
      x.statistics.nodeTypes.keys.Nodup ∧
      (∀ e ∈ x.statistics.nodeTypes, 0 < e.2 ∧ e.2 = (x.nodes.map (·.type)).count e.1) ∧
      (x.statistics.nodeTypes.map (·.2)).sum = x.statistics.nodeCount ∧
      x.statistics.nodeCount = x.nodes.length := by
  obtain ⟨report, hreport⟩ := StoredFlow.exists_lint (r := r) (o := o) x.kept
  have htally := x.tallies_nodeTypes
  have hwarnings : report.only .isolatedNode = isolationIssues (flowSnapshot x.storedWire) := by
    rw [lint_eq_snapshot x.kept.hasLists_write] at hreport
    obtain ⟨-, rfl⟩ := Snapshot.lint_eq_ok_iff.mp hreport
    rw [Snapshot.only_isolatedNode hmode, flowSnapshot_storedWire]
  refine ⟨report, x.lint_storedWire.trans hreport, ?isolated, fun type => ?types, htally.nodup,
    fun e he => ⟨htally.positive e he, htally.count_eq e he⟩, ?total, rfl⟩
  case isolated =>
    rw [hwarnings]
    exact isolatedNodes_eq hids hnodes
  case types => rw [htally.keys, List.mem_map]
  case total =>
    rw [htally.total, List.length_map]
    rfl

/-- Two nodes of one id, which no edge names, count once. -/
theorem looseFlow_statistics :
    (looseFlow 2 [ghostEdge ""]).HasIds ∧ 2 ≤ (Flow.stored (looseFlow 2 [ghostEdge ""])).nodes.length ∧
      ∃ report, lint .builtin {} (Flow.stored (looseFlow 2 [ghostEdge ""])).storedWire = .ok report ∧
        ((report.only .isolatedNode).map (·.elementId)).toFinset.card = 1 ∧
        ((Flow.stored (looseFlow 2 [ghostEdge ""])).statistics.nodeTypes.map (·.2)).sum = 2 := by
  have hids : (looseFlow 2 [ghostEdge ""]).HasIds := looseFlow_hasIds _ _
  obtain ⟨report, hreport, hisolated, -, -, -, htotal, -⟩ :=
    statistics_reported (.stored (looseFlow 2 [ghostEdge ""])) hids (by decide) .builtin {} rfl
  refine ⟨hids, by decide, report, hreport, ?_, htotal⟩
  rw [← hisolated]
  decide +kernel

end Flow

end WorkflowCheck
