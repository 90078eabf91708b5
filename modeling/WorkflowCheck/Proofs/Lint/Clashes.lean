import WorkflowCheck.Proofs.Lint.Order

/-!
# One warning for each pair of nodes

`Clashes` says of two nodes of a snapshot that a run over the whole flow warns of them: the one comes before
the other, their ids differ, and they lie over one another.  Each node is compared with all others, but the
warnings of a report are one for each pair that clashes and no more (`only_overlaps_perm`), from the earlier
node if it has an id.  So there are as many of them in any order of the nodes (`lint_overlaps_once`).
-/

namespace WorkflowCheck

open scoped List

/-- Two nodes of a snapshot have different ids and lie over one another, and the first one comes first. -/
structure Clashes (s : Snapshot) (m n : RawNode) : Prop where
  earlier : m ∈ s.nodes
  later : n ∈ s.nodes
  order : m.index < n.index
  /-- Two nodes without ids have none that differ. -/
  ids : m.id ≠ n.id
  overlap : ∃ a b, m.coordinates? = some a ∧ n.coordinates? = some b ∧ overlaps a b = true

/-- The warning of a pair that clashes: from the earlier node, or from the later one if the earlier has
no id. -/
def clashWarning (m n : RawNode) : Issue :=
  match m.id with
  | some id => overlapIssue id n
  | none => overlapIssue (n.id.getD "") m

/-! ### Warnings of a snapshot -/

section Pairs

variable {r : Registry} {o : Options} {s : Snapshot} {m n : RawNode}

theorem lieOver_iff :
    lieOver m n = true ↔
      ∃ a b, m.coordinates? = some a ∧ n.coordinates? = some b ∧ overlaps a b = true := by
  rw [lieOver]
  cases m.coordinates? with
  | none => simp
  | some a => cases n.coordinates? <;> simp

theorem clash_iff :
    clash m n = true ↔ m.id ≠ n.id ∧
      ∃ a b, m.coordinates? = some a ∧ n.coordinates? = some b ∧ overlaps a b = true := by
  rw [clash, Bool.and_eq_true, decide_eq_true_iff, lieOver_iff]

/-- The warning of a pair is about a node with an id. -/
theorem elementId_clashWarning (h : m.id ≠ n.id) :
    (clashWarning m n).elementId = m.id.or n.id ∧ (m.id.or n.id).isSome = true := by
  rw [clashWarning]
  cases hm : m.id with
  | some id => exact ⟨rfl, rfl⟩
  | none =>
    cases hn : n.id with
    | some id => exact ⟨rfl, rfl⟩
    | none => exact absurd (hm.trans hn.symm) h

theorem pairIssue?_eq (m n : RawNode) :
    pairIssue? m n = if clash m n then some (clashWarning m n) else none := by
  rw [pairIssue?]
  split_ifs with hclash
  · have hne : m.id ≠ n.id := (clash_iff.mp hclash).1
    rw [clashWarning]
    cases hm : m.id with
    | some id => rfl
    | none =>
      cases hn : n.id with
      | some id => rfl
      | none => exact absurd (hm.trans hn.symm) hne
  · rfl

/-- The pairs of a snapshot that clash. -/
def clashing (s : Snapshot) : List (RawNode × RawNode) :=
  (pairs s.nodes).filter fun p => clash p.1 p.2

theorem lt_asymm_index (a b : RawNode) (h : a.index < b.index) : ¬ b.index < a.index :=
  Nat.lt_asymm h

theorem nodup_clashing (h : s.nodes.Pairwise fun m n => m.index < n.index) : (clashing s).Nodup :=
  (nodup_pairs lt_asymm_index h).filter _

theorem mem_clashing_iff (h : s.nodes.Pairwise fun m n => m.index < n.index) :
    (m, n) ∈ clashing s ↔ Clashes s m n := by
  rw [clashing, List.mem_filter, mem_pairs_iff lt_asymm_index h, clash_iff]
  constructor
  · rintro ⟨⟨hm, hn, horder⟩, hids, hover⟩
    exact ⟨hm, hn, horder, hids, hover⟩
  · rintro ⟨hm, hn, horder, hids, hover⟩
    exact ⟨⟨hm, hn, horder⟩, hids, hover⟩

/-- The warnings of overlaps are those of the pairs that clash. -/
theorem nodeOverlaps_perm_clashing (h : s.nodes.Pairwise fun m n => m.index < n.index) :
    s.nodes.flatMap (nodeOverlaps s) ~ (clashing s).map fun p => clashWarning p.1 p.2 := by
  have hwarned : ((pairs s.nodes).filterMap fun p => pairIssue? p.1 p.2) =
      (clashing s).map fun p => clashWarning p.1 p.2 := by
    simp only [pairIssue?_eq]
    rw [clashing, ← List.filterMap_eq_map, List.filterMap_filter]
    rfl
  rw [← hwarned]
  exact overlaps_perm_pairs h

open Report (only only_append only_eq_self only_eq_nil)

theorem only_overlaps_nodeIssues (ho : o.mode = .flow) (repeated : Bool) (n : RawNode) :
    only .nodePositionOverlap (nodeIssues r o s repeated n) = nodeOverlaps s n := by
  rw [nodeOverlaps]
  cases hid : n.id with
  | none =>
    rw [nodeIssues_of_no_id hid]
    rfl
  | some id =>
    rw [nodeIssues_of_id hid, if_pos (checksWholeFlow_iff.mpr ho), only_append, only_append,
      only_eq_nil formIssues_bears (by decide),
      only_eq_nil (fun i hi => (versionIssues_isOn i hi).bears) (by decide),
      only_eq_self fun i hi => (overlapIssues_isOn i hi).bears]
    rfl

/-- A report warns of the pairs that clash. -/
theorem only_overlaps_perm {flow : Value} {report : Report} (ho : o.mode = .flow) (hlists : HasLists flow)
    (hreport : lint r o flow = .ok report) :
    report.only .nodePositionOverlap ~
      (clashing (flowSnapshot flow)).map fun p => clashWarning p.1 p.2 := by
  rw [lint_eq_snapshot hlists] at hreport
  obtain ⟨-, rfl⟩ := Snapshot.lint_eq_ok_iff.mp hreport
  rw [Snapshot.only_issues (by decide) (by decide), only_nodesIssues (only_overlaps_nodeIssues ho)]
  exact nodeOverlaps_perm_clashing places_flowSnapshot

end Pairs

/-! ### Runs over flows -/

section Runs

variable {r : Registry} {o : Options} {flow flow' : Value}

/-- Where all coordinates can be computed a run ends with a report unless it must show an integer of too many
digits. -/
theorem exists_lint_iff_of_usable (hlists : HasLists flow)
    (husable : ∀ n ∈ flowNodes flow, ¬ HasOversizedPosition n) :
    (∃ report, lint r o flow = .ok report) ↔
      ∀ n ∈ flowNodes flow, (∃ id, n.Names "id" id) →
        ¬ (n.field "type").HoldsLong ∧ ¬ (n.field "version").HoldsLong := by
  rw [exists_lint_eq_ok_iff hlists]
  constructor
  · intro h n hn hid
    exact ⟨fun htype => h ⟨n, hn, hid, Or.inl htype⟩,
      fun hversion => h ⟨n, hn, hid, Or.inr (Or.inr (Or.inl hversion))⟩⟩
  · rintro h ⟨n, hn, hid, htype | hover | hversion | ⟨-, -, m, hm, hover⟩⟩
    · exact (h n hn hid).1 htype
    · exact husable n hn hover
    · exact (h n hn hid).2 hversion
    · exact husable m hm hover

/-- Two reports warn of as many pairs if their flows have the same nodes in any order. -/
theorem length_overlaps_perm {report report' : Report} (ho : o.mode = .flow) (hlists : HasLists flow)
    (hlists' : HasLists flow') (hnodes : flowNodes flow ~ flowNodes flow')
    (hreport : lint r o flow = .ok report) (hreport' : lint r o flow' = .ok report') :
    (report.only .nodePositionOverlap).length = (report'.only .nodePositionOverlap).length := by
  have hsame : (flowSnapshot flow).nodes.map RawNode.unnumbered ~
      (flowSnapshot flow').nodes.map RawNode.unnumbered := by
    rw [unnumbered_nodes, unnumbered_nodes]
    exact hnodes.map _
  have hlength := length_nodeOverlaps_perm hsame places_flowSnapshot places_flowSnapshot
  rw [(nodeOverlaps_perm_clashing places_flowSnapshot).length_eq,
    (nodeOverlaps_perm_clashing places_flowSnapshot).length_eq] at hlength
  rw [(only_overlaps_perm ho hlists hreport).length_eq, hlength,
    (only_overlaps_perm ho hlists' hreport').length_eq]

end Runs

/-- **Each pair of nodes that lie over one another is reported once.**  Over a flow whose coordinates can be
computed a run of the whole flow ends with a report unless a type or a version holds an integer of too many
digits, and it warns of the pairs that clash, once of each: about the earlier node if it has an id, and about
the later one otherwise.  Lying over one another goes both ways, so with the nodes in another order, whatever
the edges, a run ends with a report too, and it has as many of these warnings. -/
theorem lint_overlaps_once (r : Registry) (o : Options) (ho : o.mode = .flow) (flow : Value)
    (hlists : HasLists flow) (husable : ∀ n ∈ flowNodes flow, ¬ HasOversizedPosition n) :
    ((∃ report, lint r o flow = .ok report) ↔ ∀ n ∈ flowNodes flow, (∃ id, n.Names "id" id) →
      ¬ (n.field "type").HoldsLong ∧ ¬ (n.field "version").HoldsLong) ∧
    (∃ warned : List (RawNode × RawNode), warned.Nodup ∧
      (∀ m n, (m, n) ∈ warned ↔ Clashes (flowSnapshot flow) m n) ∧
      (∀ m n, (m, n) ∈ warned →
        (clashWarning m n).elementId = m.id.or n.id ∧ (m.id.or n.id).isSome = true) ∧
      ∀ report, lint r o flow = .ok report →
        report.only .nodePositionOverlap ~ warned.map fun p => clashWarning p.1 p.2) ∧
    (∀ a b, overlaps a b = overlaps b a) ∧
    ∀ flow', HasLists flow' → flowNodes flow ~ flowNodes flow' → ∀ report, lint r o flow = .ok report →
      ∃ report', lint r o flow' = .ok report' ∧
        (report.only .nodePositionOverlap).length = (report'.only .nodePositionOverlap).length := by
  refine ⟨exists_lint_iff_of_usable hlists husable, ⟨clashing (flowSnapshot flow), ?_, ?_, ?_, ?_⟩,
    overlaps_comm, fun flow' hlists' hnodes report hreport => ?order⟩
  · exact nodup_clashing places_flowSnapshot
  · exact fun m n => mem_clashing_iff places_flowSnapshot
  · exact fun m n hmn => elementId_clashWarning ((mem_clashing_iff places_flowSnapshot).mp hmn).ids
  · exact fun report hreport => only_overlaps_perm ho hlists hreport
  case order =>
    have hends : ∃ report', lint r o flow' = .ok report' := by
      rw [exists_lint_eq_ok_iff hlists', ← exists_fails_perm hnodes, ← exists_lint_eq_ok_iff hlists]
      exact ⟨report, hreport⟩
    obtain ⟨report', hreport'⟩ := hends
    exact ⟨report', hreport', length_overlaps_perm ho hlists hlists' hnodes hreport hreport'⟩

theorem usable_ringFlow {ids : List String} {ends : List (String × String)} :
    ∀ n ∈ flowNodes (ringFlow ids ends), ¬ HasOversizedPosition n := by
  have horigin : (Value.int 0).FitsDouble := by
    rintro _ ⟨⟩
    exact (by decide +kernel : 0 < Double.leastOversized)
  exact List.forall_mem_map.mpr fun id _ hover => hover.2 ⟨horigin, horigin⟩

/-- Of four nodes at one place, of which one has no id and two share one, five pairs clash in any order. -/
theorem ringFlow_overlaps :
    ∃ report report', lint .builtin {} (ringFlow ["", "a", "a", "b"] []) = .ok report ∧
      lint .builtin {} (ringFlow ["b", "a", "a", ""] []) = .ok report' ∧
      (report.only .nodePositionOverlap).length = 5 ∧ (report'.only .nodePositionOverlap).length = 5 ∧
      ∃ warned : List (RawNode × RawNode), warned.Nodup ∧
        report.only .nodePositionOverlap ~ warned.map fun p => clashWarning p.1 p.2 := by
  obtain ⟨-, ⟨warned, hnodup, -, -, hwarned⟩, -, horder⟩ := lint_overlaps_once .builtin {} rfl
    (ringFlow ["", "a", "a", "b"] []) ⟨rfl, rfl, rfl⟩ usable_ringFlow
  obtain ⟨report, hreport⟩ : ∃ report, lint .builtin {} (ringFlow ["", "a", "a", "b"] []) = .ok report :=
    exists_report_of_isSome (by decide +kernel)
  obtain ⟨report', hreport', hlength⟩ := horder (ringFlow ["b", "a", "a", ""] []) ⟨rfl, rfl, rfl⟩
    (List.reverse_perm [_, _, _, _]).symm report hreport
  have hfive : (clashing (flowSnapshot (ringFlow ["", "a", "a", "b"] []))).length = 5 := by
    decide +kernel
  have hcount : (report.only .nodePositionOverlap).length = 5 := by
    rw [(only_overlaps_perm rfl ⟨rfl, rfl, rfl⟩ hreport).length_eq, List.length_map, hfive]
  exact ⟨report, report', hreport, hreport', hcount, hlength ▸ hcount, warned, hnodup,
    hwarned report hreport⟩

end WorkflowCheck
