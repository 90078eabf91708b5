import WorkflowCheck.Proofs.Lint.Failure

/-!
# The linter finds an error in exactly the flows that are not well-formed

`clean_report_iff_wellFormed` puts the rules together.  A flow whose issues are clean has nodes that all
pass, so nothing that a run reads or shows can stop it; its edges end at nodes, so a circle of edges would
be met from a node; and the converse goes the same way back.
-/

namespace WorkflowCheck

open Relation

section Whole

variable {r : Registry} {o : Options} {flow : Value}

/-- Nothing ends a run early over nodes that all pass. -/
theorem error?_eq_none_of_passes {s : Snapshot} (h : ∀ n ∈ s.nodes, Passes r o s n) :
    s.error? r o = none := by
  have hplace : ∀ n ∈ s.nodes, n.place ≠ .oversized := by
    intro n hn hplace
    obtain ⟨id, c, -, -, hpasses⟩ := h n hn
    obtain ⟨here, hhere⟩ := hpasses.placed
    rw [RawNode.coordinates?, hplace] at hhere
    cases hhere
  rw [Option.eq_none_iff_forall_ne_some]
  intro e he
  obtain ⟨n, hn, herror⟩ := exists_error?_iff.mp ⟨e, he⟩
  obtain ⟨id, c, -, hc, hpasses⟩ := h n hn
  obtain ⟨-, ⟨htype, -⟩ | hover | ⟨hversion, -⟩ | ⟨-, hmeets⟩⟩ := exists_nodeError?_iff.mp herror
  · rw [hasUnknownType, hc, Option.isNone_some, Bool.and_false] at htype
    exact Bool.noConfusion htype
  · exact hplace n hn hover
  · rw [hpasses.version] at hversion
    exact Bool.noConfusion hversion
  · obtain ⟨-, other, hother, -, hover⟩ := meetsOversized_eq_true_iff.mp hmeets
    exact hplace other hother hover

/-- A run ends with a report without errors when the issues are clean. -/
theorem lint_clean_iff {s : Snapshot} (hmode : o.mode = .flow) :
    (∃ report, s.lint r o = .ok report ∧ report.hasErrors = false) ↔ Clean (s.issues r o) := by
  constructor
  · rintro ⟨report, hreport, hclean⟩
    obtain ⟨-, rfl⟩ := Snapshot.lint_eq_ok_iff.mp hreport
    exact hasErrors_eq_false_iff.mp hclean
  · intro hclean
    have hpasses := ((Snapshot.clean_issues hmode).mp hclean).1.1
    have hends : s.lint r o = .ok (s.issues r o) :=
      Snapshot.lint_eq_ok_iff.mpr ⟨error?_eq_none_of_passes hpasses, rfl⟩
    exact ⟨_, hends, hasErrors_eq_false_iff.mpr hclean⟩

/-- Ids that are there differ as texts if they differ as values. -/
theorem pairwise_ids_iff (hnamed : ∀ v ∈ flowNodes flow, ∃ id, v.Names "id" id) :
    ((flowSnapshot flow).nodes.Pairwise fun m n => m.id ≠ n.id) ↔
      (flowNodes flow).Pairwise fun m n => m.field "id" ≠ n.field "id" := by
  have hread : ((readIndexed RawNode.ofValue (flowNodes flow)).Pairwise fun m n => m.id ≠ n.id) ↔
      (flowNodes flow).Pairwise fun v w => (v.field "id").filledText? ≠ (w.field "id").filledText? :=
    pairwise_readIndexed _ fun i j v w => Iff.rfl
  refine hread.trans ?_
  refine List.Pairwise.iff_of_mem fun {v w} hv hw => not_congr ?_
  obtain ⟨a, ha⟩ := hnamed v hv
  obtain ⟨b, hb⟩ := hnamed w hw
  show (v.field "id").filledText? = (w.field "id").filledText? ↔ _
  rw [Value.filledText?_field_iff.mpr ha, Value.filledText?_field_iff.mpr hb, ha.1, hb.1,
    Option.some.injEq, Value.str.injEq]

/-- If every edge starts at a node, a circle of edges is met from a node. -/
theorem cycleIssues_eq_nil_iff
    (hsource : ∀ e ∈ flowEdges flow, ∀ a, e.Names "source" a → ∃ n ∈ flowNodes flow, n.Names "id" a) :
    cycleIssues (flowSnapshot flow) = [] ↔ ∀ id, ¬ TransGen (Leads flow) id id := by
  have hleads : (flowSnapshot flow).Links = Leads flow := by
    ext a b
    exact links_iff
  have hmet : cycleIssues (flowSnapshot flow) ≠ [] ↔ ∃ id, TransGen (Leads flow) id id := by
    rw [Snapshot.cycleIssues_ne_nil_iff, hleads]
    constructor
    · rintro ⟨n, -, id, -, x, -, hcircle⟩
      exact ⟨x, hcircle⟩
    · rintro ⟨id, hcircle⟩
      obtain ⟨b, ⟨e, he, hstart, -⟩, -⟩ := TransGen.head'_iff.mp hcircle
      obtain ⟨v, hv, hvid⟩ := hsource e he id hstart
      obtain ⟨i, hi⟩ := List.mem_iff_getElem?.mp hv
      exact ⟨RawNode.ofValue i v, mem_readIndexed.mpr ⟨i, v, hi, rfl⟩, id,
        Value.filledText?_field_iff.mpr hvid, id, ReflTransGen.refl, hcircle⟩
  rw [← not_iff_not, ← ne_eq, hmet, not_forall_not]

theorem exists_id_of_wellFormedNode {strict : Bool}
    (h : ∀ n ∈ flowNodes flow, ∃ id c, HasContract r n c ∧ WellFormedNode strict flow n id c) :
    ∀ v ∈ flowNodes flow, ∃ id, v.Names "id" id := by
  intro v hv
  obtain ⟨id, c, -, hn⟩ := h v hv
  exact ⟨id, hn.names⟩

theorem exists_node_of_wellFormedEdge
    (h : ∀ e ∈ flowEdges flow, ∃ source outHandle target inHandle,
      WellFormedEdge r flow e source outHandle target inHandle) :
    ∀ e ∈ flowEdges flow, ∀ a, e.Names "source" a → ∃ n ∈ flowNodes flow, n.Names "id" a := by
  intro e he a ha
  obtain ⟨source, outHandle, target, inHandle, hwell⟩ := h e he
  obtain ⟨n, hn, hid, -⟩ := hwell.leaves
  exact ⟨n, hn, hwell.hasSource.unique ha ▸ hid⟩

/-- The issues of a flow with lists are clean exactly if the rest of being well-formed holds. -/
theorem clean_issues_flowSnapshot_iff (hmode : o.mode = .flow) (hlists : HasLists flow)
    (hfit : CoordinatesFit flow) :
    Clean ((flowSnapshot flow).issues r o) ↔ WellFormed r o.strict flow := by
  have hnodes : (∀ n ∈ (flowSnapshot flow).nodes, Passes r o (flowSnapshot flow) n) ↔
      ∀ n ∈ flowNodes flow, ∃ id c, HasContract r n c ∧ WellFormedNode o.strict flow n id c :=
    forall_mem_readIndexed fun k v hv => passes_iff (hfit v hv)
  have hedges : ((flowNodes flow).Pairwise fun m n => m.field "id" ≠ n.field "id") →
      ((∀ e ∈ (flowSnapshot flow).edges, Clean (edgeIssues r (flowSnapshot flow) e)) ↔
        ∀ e ∈ flowEdges flow, ∃ source outHandle target inHandle,
          WellFormedEdge r flow e source outHandle target inHandle) :=
    fun hdistinct => forall_mem_readIndexed fun k e _ => clean_edgeIssues_iff hdistinct
  rw [Snapshot.clean_issues hmode, hnodes]
  constructor
  · rintro ⟨⟨hnode, hids⟩, hclean, hcycles⟩
    have hdistinct := (pairwise_ids_iff (exists_id_of_wellFormedNode hnode)).mp hids
    have hedge := (hedges hdistinct).mp hclean
    exact {
      lists := hlists
      node := hnode
      distinct := hdistinct
      edge := hedge
      acyclic := (cycleIssues_eq_nil_iff (exists_node_of_wellFormedEdge hedge)).mp hcycles }
  · intro hwell
    refine ⟨⟨hwell.node, ?_⟩, ?_, ?_⟩
    · exact (pairwise_ids_iff (exists_id_of_wellFormedNode hwell.node)).mpr hwell.distinct
    · exact (hedges hwell.distinct).mpr hwell.edge
    · exact (cycleIssues_eq_nil_iff (exists_node_of_wellFormedEdge hwell.edge)).mpr hwell.acyclic

end Whole

/-- A run over a whole flow whose coordinates fit a double ends with a report without errors exactly if
the flow is well-formed. -/
theorem clean_report_iff_wellFormed (r : Registry) (o : Options) (flow : Value) (hmode : o.mode = .flow)
    (hfit : CoordinatesFit flow) :
    (∃ report, lint r o flow = .ok report ∧ report.hasErrors = false) ↔ WellFormed r o.strict flow := by
  rw [lint]
  rcases ofValue_cases flow with ⟨hlists, hflow⟩ | ⟨hlists, issue, hflow, hsevere⟩
  · rw [hflow, ← clean_issues_flowSnapshot_iff hmode hlists hfit]
    exact lint_clean_iff hmode
  · rw [hflow]
    refine iff_of_false ?_ fun h => hlists h.lists
    rintro ⟨report, hreport, hclean⟩
    cases hreport
    exact not_clean_singleton hsevere (hasErrors_eq_false_iff.mp hclean)

/-! ### A well-formed flow -/

/-- A node that reads news and needs nothing but where to find them. -/
def newsNode : Value :=
  .record
    [("id", .str "news"), ("type", .str "rss_listener_node"),
      ("position", .record [("x", .int 0), ("y", .int 0)]),
      ("data", .record
        [("inputs", .arr [.record [("id", .str "route"), ("value", .str "daily")]]),
          ("outputs", .arr [.record [("id", .str "feeds"), ("isDeleted", .bool false)]])])]

/-- A node that stores what an edge brings it. -/
def sheetNode : Value :=
  .record
    [("id", .str "sheet"), ("type", .str "dataset_output_node"), ("version", .str "latest"),
      ("position", .record [("x", .int 300), ("y", .int 0)]),
      ("inputs", .arr
        [.record [("id", .str "doc_link"), ("value", .str "d1")],
          .record [("id", .str "data"), ("value", .null)]])]

/-- The edge from the news to the sheet. -/
def newsEdge : Value :=
  .record
    [("source", .str "news"), ("sourceHandle", .str "feeds-handle"), ("target", .str "sheet"),
      ("targetHandle", .str "data-handle")]

/-- A flow that stores news. -/
def newsFlow : Value :=
  .record [("nodes", .arr [newsNode, sheetNode]), ("edges", .arr [newsEdge])]

theorem newsNode_wellFormed : ∃ id c, HasContract .builtin newsNode c ∧
    WellFormedNode true newsFlow newsNode id c := by
  refine ⟨"news", _, ⟨"rss_listener_node", rfl, rfl⟩, {
    object := rfl
    names := ⟨rfl, by decide⟩
    typed := fun h => absurd (Value.str.inj h) (by decide)
    position := ⟨rfl, Or.inl ⟨0, rfl⟩, Or.inl ⟨0, rfl⟩⟩
    required := ?_
    inputs := ?_
    outputs := ?_
    version := Or.inl rfl }⟩
  · intro field hfield
    obtain rfl : field = "route" := List.mem_singleton.mp hfield
    refine ⟨_, ⟨[], [], rfl, ⟨rfl, by decide⟩, List.forall_mem_nil _⟩, Or.inl ?_⟩
    rw [← unset_iff]
    decide
  · intro i hi
    cases List.mem_singleton.mp hi
    exact ⟨"route", rfl, by decide⟩
  · intro out hout
    cases List.mem_singleton.mp hout
    exact ⟨⟨"feeds", rfl, by decide⟩, fun _ => ⟨false, rfl⟩⟩

theorem sheetNode_wellFormed : ∃ id c, HasContract .builtin sheetNode c ∧
    WellFormedNode true newsFlow sheetNode id c := by
  have hfed : IsFed newsFlow "sheet" "data" :=
    ⟨newsEdge, List.mem_singleton_self _, ⟨rfl, by decide⟩, "data-handle", ⟨rfl, by decide⟩,
      Or.inl (by decide)⟩
  refine ⟨"sheet", _, ⟨"dataset_output_node", rfl, rfl⟩, {
    object := rfl
    names := ⟨rfl, by decide⟩
    typed := fun h => absurd (Value.str.inj h) (by decide)
    position := ⟨rfl, Or.inl ⟨300, rfl⟩, Or.inl ⟨0, rfl⟩⟩
    required := ?_
    inputs := ?_
    outputs := fun out hout => nomatch hout
    version := Or.inr ⟨"latest", rfl, .latest, none, Or.inr (Or.inl ⟨rfl, [], rfl, rfl⟩)⟩ }⟩
  · intro field hfield
    rcases List.mem_cons.mp hfield with rfl | hfield
    · refine ⟨_, ⟨[], _, rfl, ⟨rfl, by decide⟩, List.forall_mem_nil _⟩, Or.inl ?_⟩
      rw [← unset_iff]
      decide
    · -- the second one is null and has its value from the edge
      obtain rfl : field = "data" := List.mem_singleton.mp hfield
      refine ⟨_, ⟨[_], [], rfl, ⟨rfl, by decide⟩, ?_⟩, Or.inr hfed⟩
      intro j hj hnamed
      cases List.mem_singleton.mp hj
      exact absurd (Value.str.inj hnamed.1) (by decide)
  · intro i hi
    rcases List.mem_cons.mp hi with rfl | hi
    · exact ⟨"doc_link", rfl, by decide⟩
    · cases List.mem_singleton.mp hi
      exact ⟨"data", rfl, by decide⟩

theorem newsFlow_wellFormed : WellFormed .builtin true newsFlow := by
  have hnews : newsNode ∈ flowNodes newsFlow := List.mem_cons_self
  have hsheet : sheetNode ∈ flowNodes newsFlow := List.mem_cons_of_mem _ (List.mem_singleton_self _)
  have hleads : ∀ {a b}, Leads newsFlow a b → a = "news" ∧ b = "sheet" := by
    rintro a b ⟨e, he, ha, hb⟩
    obtain rfl : e = newsEdge := List.mem_singleton.mp he
    exact ⟨ha.unique ⟨rfl, by decide⟩, hb.unique ⟨rfl, by decide⟩⟩
  refine ⟨⟨rfl, rfl, rfl⟩, ?_, ?_, ?_, ?_⟩
  · intro n hn
    rcases List.mem_cons.mp hn with rfl | hn
    · exact newsNode_wellFormed
    · obtain rfl : n = sheetNode := List.mem_singleton.mp hn
      exact sheetNode_wellFormed
  · refine List.pairwise_pair.mpr ?_
    exact fun h => absurd (Value.str.inj h) (by decide)
  · intro e he
    obtain rfl : e = newsEdge := List.mem_singleton.mp he
    refine ⟨"news", "feeds-handle", "sheet", "data-handle", ⟨rfl, by decide⟩, ⟨rfl, by decide⟩,
      ⟨rfl, by decide⟩, ⟨rfl, by decide⟩, ?_, ?_⟩
    · refine ⟨_, hnews, ⟨rfl, by decide⟩, Or.inl ?_⟩
      exact ⟨_, List.mem_singleton_self _, rfl, by decide⟩
    · refine ⟨_, hsheet, ⟨rfl, by decide⟩, Or.inl ?_⟩
      exact ⟨_, List.mem_cons_of_mem _ (List.mem_singleton_self _), rfl, by decide⟩
  · intro id hcircle
    obtain ⟨b, hfirst, -⟩ := TransGen.head'_iff.mp hcircle
    obtain ⟨c, -, hlast⟩ := TransGen.tail'_iff.mp hcircle
    have h := (hleads hfirst).1.symm.trans (hleads hlast).2
    exact absurd h (by decide)

theorem newsFlow_clean :
    CoordinatesFit newsFlow ∧
      ∃ report, lint .builtin { strict := true } newsFlow = .ok report ∧ report.hasErrors = false := by
  have hsmall : ∀ i : Int, i.natAbs ≤ 300 → (Value.int i).FitsDouble := by
    rintro i hi _ ⟨⟩
    exact Nat.lt_of_le_of_lt hi (by decide +kernel)
  have hfit : CoordinatesFit newsFlow := by
    intro n hn
    rcases List.mem_cons.mp hn with rfl | hn
    · exact ⟨hsmall 0 (by decide), hsmall 0 (by decide)⟩
    · obtain rfl : n = sheetNode := List.mem_singleton.mp hn
      exact ⟨hsmall 300 (by decide), hsmall 0 (by decide)⟩
  exact ⟨hfit, (clean_report_iff_wellFormed .builtin { strict := true } newsFlow rfl hfit).mpr
    newsFlow_wellFormed⟩

end WorkflowCheck
