import Mathlib.Data.Finset.Card
import WorkflowCheck.Proofs.Graph.Index
import WorkflowCheck.Proofs.Lint.MoreEdges

/-!
# What the indexes of a snapshot hold, and the nodes that repeat an id

The indexes of a snapshot are filled in one pass each.  `IndexesOf` says of the raw lists alone what they hold:
for each id the fields that edges lead into, in the order of the edges, and the first node that has it.  The
rules for nodes keep ids of their own that they have met.  They find an id to be repeated at the nodes that are
not what the index holds for their id (`nodesIssues_eq_flatMap`), so there are as many findings as nodes with
an id beyond the different ids (`ofValues_indexes`).
-/

namespace WorkflowCheck

open Report (only only_append only_flatMap)

/-! ### The indexes by the raw lists -/

/-- The field that a raw edge leads into at a node: its target is the id, and its handle there is a text that
is not empty. -/
def fieldLedInto (id : String) (e : Value) : Option String :=
  match e.field "target", e.field "targetHandle" with
  | .str target, .str handle => if target = id ∧ handle ≠ "" then some (fieldOfHandle handle) else none
  | _, _ => none

/-- The node at a place is the first one of the raw nodes that has an id. -/
def FirstAt (nodes : List Value) (id : String) (k : Nat) (v : Value) : Prop :=
  nodes[k]? = some v ∧ v.Names "id" id ∧ ∀ u ∈ nodes.take k, ¬ u.Names "id" id

/-- The indexes of a snapshot are those of some raw nodes and edges.  An empty text is no id. -/
structure Snapshot.IndexesOf (nodes edges : List Value) (s : Snapshot) : Prop where
  inbound : ∀ id, s.inboundFields id = if id = "" then [] else edges.filterMap (fieldLedInto id)
  first : ∀ id n, s.node? id = some n ↔ ∃ k v, FirstAt nodes id k v ∧ n = RawNode.ofValue k v
  keys : ∀ id, id ∈ s.nodeMap.keys ↔ ∃ v ∈ nodes, v.Names "id" id
  nodup : s.nodeMap.keys.Nodup

section Indexes

variable {nodes edges : List Value}

theorem filterMap_readIndexed {α β : Type} {read : Nat → Value → α} {f : α → Option β}
    {g : Value → Option β} (h : ∀ i v, f (read i v) = g v) (vs : List Value) :
    (readIndexed read vs).filterMap f = vs.filterMap g := by
  have hmap := congrArg (List.filterMap fun x => x) (map_readIndexed h vs)
  simpa [List.filterMap_map, Function.comp_def] using hmap

theorem fieldInto_ofValue {id : String} (hid : id ≠ "") (i : Nat) (e : Value) :
    Snapshot.fieldInto id (RawEdge.ofValue i e) = fieldLedInto id e := by
  have htarget : (RawEdge.ofValue i e).target = some id ↔ e.field "target" = .str id := by
    rw [show (RawEdge.ofValue i e).target = (e.field "target").filledText? from rfl,
      Value.filledText?_field_iff]
    exact and_iff_left hid
  have hfield : (RawEdge.ofValue i e).targetField =
      (e.field "targetHandle").filledText?.map fieldOfHandle := rfl
  rw [Snapshot.fieldInto, hfield]
  unfold fieldLedInto
  by_cases ht : e.field "target" = .str id
  · rw [if_pos (htarget.mpr ht), ht]
    cases e.field "targetHandle" with
    | str handle =>
      by_cases hh : handle = ""
      · simp [hh, Value.filledText?]
      · simp [hh, Value.filledText?_str hh]
    | _ => rfl
  · rw [if_neg (mt htarget.mp ht)]
    split
    case h_1 target handle htext _ =>
      have hne : target ≠ id := by
        rintro rfl
        exact ht htext
      simp [hne]
    case h_2 => rfl

theorem fieldInto_empty (i : Nat) (e : Value) : Snapshot.fieldInto "" (RawEdge.ofValue i e) = none := by
  refine if_neg fun h => ?_
  exact (Value.filledText?_field_iff.mp h).2 rfl

theorem inboundFields_ofValues_eq (id : String) :
    (Snapshot.ofValues nodes edges).inboundFields id =
      if id = "" then [] else edges.filterMap (fieldLedInto id) := by
  rw [Snapshot.inboundFields_ofValues]
  split_ifs with hid
  · subst hid
    rw [filterMap_readIndexed fieldInto_empty]
    simp
  · exact filterMap_readIndexed (fieldInto_ofValue hid) edges

theorem node?_ofValues_eq_some_iff {id : String} {n : RawNode} :
    (Snapshot.ofValues nodes edges).node? id = some n ↔
      ∃ k v, FirstAt nodes id k v ∧ n = RawNode.ofValue k v := by
  have hread : ∀ k (hk : k < (readIndexed RawNode.ofValue nodes).length) (hlt : k < nodes.length),
      (readIndexed RawNode.ofValue nodes)[k] = RawNode.ofValue k nodes[k] := fun _ _ _ =>
    List.getElem_mapIdx
  have hlength : (readIndexed RawNode.ofValue nodes).length = nodes.length := List.length_mapIdx
  have hhas : ∀ k v, decide ((RawNode.ofValue k v).id = some id) = true ↔ v.Names "id" id := fun _ _ =>
    decide_eq_true_iff.trans Value.filledText?_field_iff
  rw [Snapshot.node?_ofValues, List.find?_eq_some_iff_getElem]
  constructor
  · rintro ⟨hn, k, hk, rfl, hbefore⟩
    have hlt : k < nodes.length := hlength ▸ hk
    rw [hread k hk hlt] at hn ⊢
    refine ⟨k, nodes[k], ⟨List.getElem?_eq_getElem hlt, (hhas k _).mp hn, fun u hu hnames => ?_⟩, rfl⟩
    obtain ⟨j, hj, rfl⟩ := List.mem_take_iff_getElem.mp hu
    have hnot := hbefore j (by omega)
    rw [hread j (by omega) (by omega), (hhas j _).mpr hnames] at hnot
    exact Bool.noConfusion hnot
  · rintro ⟨k, v, ⟨hk, hv, hbefore⟩, rfl⟩
    obtain ⟨hlt, rfl⟩ := List.getElem?_eq_some_iff.mp hk
    refine ⟨(hhas k _).mpr hv, k, by omega, hread k _ hlt, fun j hj => ?_⟩
    rw [hread j (by omega) (by omega), Bool.not_eq_true', Bool.eq_false_iff, ne_eq, hhas]
    exact hbefore _ (List.mem_take_iff_getElem.mpr ⟨j, by omega, rfl⟩)

theorem nodup_keys_indexNode {map : Table String RawNode} (h : map.keys.Nodup) (n : RawNode) :
    (Snapshot.indexNode map n).keys.Nodup := by
  unfold Snapshot.indexNode
  cases n.id with
  | none => exact h
  | some id =>
    exact Table.nodup_keys_alter h

theorem nodup_keys_foldl : ∀ (ns : List RawNode) {map : Table String RawNode}, map.keys.Nodup →
    (ns.foldl Snapshot.indexNode map).keys.Nodup
  | [], _, h => h
  | n :: ns, _, h => nodup_keys_foldl ns (nodup_keys_indexNode h n)

theorem mem_keys_nodeMap_iff {id : String} :
    id ∈ (Snapshot.ofValues nodes edges).nodeMap.keys ↔ ∃ v ∈ nodes, v.Names "id" id := by
  rw [Table.mem_keys_iff]
  show ((Snapshot.ofValues nodes edges).node? id).isSome ↔ _
  rw [Snapshot.node?_ofValues, List.find?_isSome]
  simp only [decide_eq_true_eq]
  exact exists_mem_readIndexed fun _ _ => Value.filledText?_field_iff

theorem indexesOf_ofValues (nodes edges : List Value) :
    (Snapshot.ofValues nodes edges).IndexesOf nodes edges where
  inbound _ := inboundFields_ofValues_eq _
  first _ _ := node?_ofValues_eq_some_iff
  keys _ := mem_keys_nodeMap_iff
  nodup := nodup_keys_foldl _ List.nodup_nil

end Indexes

/-! ### Nodes that repeat an id -/

namespace Snapshot

/-- Whether a node repeats an id: the index holds a node at another place for the id that it has. -/
def repeats (s : Snapshot) (n : RawNode) : Bool :=
  n.id.any fun id => (s.node? id).any (·.index ≠ n.index)

end Snapshot

section Repeats

variable {nodes edges : List Value} {r : Registry} {o : Options} {s : Snapshot} {n : RawNode} {id : String}

theorem getElem?_nodes_ofValues {k : Nat} (h : (Snapshot.ofValues nodes edges).nodes[k]? = some n) :
    ∃ v, nodes[k]? = some v ∧ n = RawNode.ofValue k v := by
  have hread : (nodes[k]?).map (RawNode.ofValue k) = some n := by
    rw [← h]
    exact List.getElem?_mapIdx.symm
  obtain ⟨v, hv, rfl⟩ := Option.map_eq_some_iff.mp hread
  exact ⟨v, hv, rfl⟩

/-- A node repeats an id exactly if it has one and is not what the index holds for it. -/
theorem repeats_iff (hn : n ∈ (Snapshot.ofValues nodes edges).nodes) :
    (Snapshot.ofValues nodes edges).repeats n = true ↔
      ∃ id, n.id = some id ∧ (Snapshot.ofValues nodes edges).node? id ≠ some n := by
  rw [Snapshot.repeats, Option.any_eq_true]
  refine exists_congr fun id => and_congr_right fun hid => ?_
  obtain ⟨k, hk⟩ := List.mem_iff_getElem?.mp hn
  obtain ⟨v, hv, rfl⟩ := getElem?_nodes_ofValues hk
  have hkey : id ∈ (Snapshot.ofValues nodes edges).nodeMap.keys :=
    mem_keys_nodeMap_iff.mpr ⟨v, List.mem_of_getElem? hv, Value.filledText?_field_iff.mp hid⟩
  obtain ⟨m, hm⟩ := Option.isSome_iff_exists.mp ((Table.mem_keys_iff _ _).mp hkey)
  have hm : (Snapshot.ofValues nodes edges).node? id = some m := hm
  obtain ⟨j, u, ⟨hu, -⟩, rfl⟩ := node?_ofValues_eq_some_iff.mp hm
  have hplaces : (RawNode.ofValue j u).index ≠ (RawNode.ofValue k v).index ↔
      RawNode.ofValue j u ≠ RawNode.ofValue k v := by
    refine not_congr ⟨fun hindex => ?_, congrArg _⟩
    have hjk : j = k := hindex
    subst hjk
    rw [Option.some.inj (hu.symm.trans hv)]
  simp [hm, hplaces]

/-- A node repeats an id exactly if a node before it has it. -/
theorem repeats_eq_any {before after : List RawNode}
    (hsplit : (Snapshot.ofValues nodes edges).nodes = before ++ n :: after) :
    (Snapshot.ofValues nodes edges).repeats n = n.id.any (· ∈ before.filterMap (·.id)) := by
  cases hid : n.id with
  | none => simp [Snapshot.repeats, hid]
  | some id =>
    have hfind : (Snapshot.ofValues nodes edges).node? id =
        (before.find? fun m => m.id = some id).or (some n) := by
      rw [Snapshot.node?_ofValues]
      show (Snapshot.ofValues nodes edges).nodes.find? _ = _
      rw [hsplit, List.find?_append, List.find?_cons, decide_eq_true hid]
    rw [Snapshot.repeats, hid, Option.any_some, Option.any_some, hfind]
    by_cases hold : id ∈ before.filterMap (·.id)
    · -- the node that is found is one of those before it, and so at another place
      obtain ⟨m, hm, hmid⟩ := List.mem_filterMap.mp hold
      obtain ⟨first, hfirst⟩ : ∃ first, (before.find? fun m => m.id = some id) = some first :=
        Option.isSome_iff_exists.mp (List.find?_isSome.mpr ⟨m, hm, decide_eq_true hmid⟩)
      have hplaces := Snapshot.places_ofValues nodes edges
      rw [hsplit] at hplaces
      have hlt : first.index < n.index :=
        (List.pairwise_append.mp hplaces).2.2 first (List.mem_of_find?_eq_some hfirst) n List.mem_cons_self
      rw [hfirst, decide_eq_true hold]
      exact decide_eq_true hlt.ne
    · have hnone : (before.find? fun m => m.id = some id) = none :=
        List.find?_eq_none.mpr fun m hm hmid =>
          hold (List.mem_filterMap.mpr ⟨m, hm, of_decide_eq_true hmid⟩)
      rw [hnone, decide_eq_false hold]
      exact decide_eq_false fun h => h rfl

/-! ### What is reported of them -/

/-- Behind nodes whose ids are the seen ones, each node is reported as it repeats an id by the index. -/
theorem nodesIssues_behind (r : Registry) (o : Options) :
    ∀ (after before : List RawNode) (seen : List String),
      (Snapshot.ofValues nodes edges).nodes = before ++ after →
      (∀ id, id ∈ seen ↔ id ∈ before.filterMap (·.id)) →
      nodesIssues r o (Snapshot.ofValues nodes edges) seen after = after.flatMap fun n =>
        nodeIssues r o (Snapshot.ofValues nodes edges) ((Snapshot.ofValues nodes edges).repeats n) n
  | [], _, _, _, _ => rfl
  | n :: after, before, seen, hsplit, hseen => by
    have hrepeats : n.id.any (· ∈ seen) = (Snapshot.ofValues nodes edges).repeats n := by
      rw [repeats_eq_any hsplit]
      exact congrArg n.id.any (funext fun id => decide_eq_decide.mpr (hseen id))
    rw [nodesIssues, List.flatMap_cons, hrepeats,
      nodesIssues_behind r o after (before ++ [n]) (n.id.toList ++ seen) (by simpa using hsplit)]
    intro id
    rw [List.mem_append, List.filterMap_append, List.mem_append, hseen, or_comm]
    refine or_congr_right ?_
    cases hid : n.id <;> simp [hid]

/-- The ids that the rules for nodes have met tell the same nodes apart as the index. -/
theorem nodesIssues_eq_flatMap (r : Registry) (o : Options) :
    nodesIssues r o (Snapshot.ofValues nodes edges) [] (Snapshot.ofValues nodes edges).nodes =
      (Snapshot.ofValues nodes edges).nodes.flatMap fun n =>
        nodeIssues r o (Snapshot.ofValues nodes edges) ((Snapshot.ofValues nodes edges).repeats n) n :=
  nodesIssues_behind r o _ [] [] rfl fun _ => Iff.rfl

theorem card_insert_sdiff (id : String) (ids seen : Finset String) :
    (insert id ids \ seen).card = (ids \ insert id seen).card + if id ∈ seen then 0 else 1 := by
  split_ifs with hseen
  · rw [Finset.insert_sdiff_of_mem _ hseen, Finset.insert_eq_of_mem hseen, Nat.add_zero]
  · rw [Finset.insert_sdiff_of_notMem _ hseen, Finset.sdiff_insert,
      ← Finset.card_erase_add_one (Finset.mem_insert_self id _), Finset.erase_insert_eq_erase]

/-- There is a finding for each node with an id, but for one at each id that was not seen. -/
theorem length_only_repeated (r : Registry) (o : Options) (s : Snapshot) :
    ∀ (seen : List String) (ns : List RawNode),
      (only .duplicateNodeId (nodesIssues r o s seen ns)).length +
        ((ns.filterMap (·.id)).toFinset \ seen.toFinset).card = (ns.filterMap (·.id)).length
  | _, [] => by simp [nodesIssues, only]
  | seen, n :: ns => by
    have ih := length_only_repeated r o s (n.id.toList ++ seen) ns
    rw [nodesIssues, only_append, List.length_append, only_repeated_nodeIssues, List.length_map]
    cases hid : n.id with
    | none => simpa [hid] using ih
    | some id =>
      rw [hid, Option.toList_some, List.singleton_append, List.toFinset_cons] at ih
      rw [List.filterMap_cons_some hid, List.toFinset_cons, List.length_cons, Option.any_some,
        Option.toList_some, List.singleton_append]
      generalize ns.filterMap (·.id) = ids at ih ⊢
      rw [card_insert_sdiff, ← ih]
      by_cases hseen : id ∈ seen
      · rw [if_pos (decide_eq_true hseen), if_pos (List.mem_toFinset.mpr hseen), List.length_singleton]
        omega
      · rw [if_neg (by simpa using hseen), if_neg (mt List.mem_toFinset.mp hseen), List.length_nil]
        omega

/-- The findings of a report are those of the nodes that repeat an id, in their order. -/
theorem only_repeated_issues (r : Registry) (o : Options) :
    only .duplicateNodeId ((Snapshot.ofValues nodes edges).issues r o) =
      (((Snapshot.ofValues nodes edges).nodes.filter (Snapshot.ofValues nodes edges).repeats).filterMap
        (·.id)).map repeatIssue := by
  rw [Snapshot.only_issues (by decide) (by decide), nodesIssues_eq_flatMap, only_flatMap]
  simp only [only_repeated_nodeIssues]
  rw [← List.map_flatMap]
  refine congrArg _ ?_
  induction (Snapshot.ofValues nodes edges).nodes with
  | nil => rfl
  | cons n ns ih =>
    rw [List.flatMap_cons, ih, List.filter_cons]
    split_ifs
    · cases hid : n.id <;> simp [hid]
    · rfl

/-- **What the indexes hold, and who repeats an id.**  For all raw nodes and edges the indexes are those that
the lists have.  The rules for nodes report each node as one that repeats an id if it is not what the index
holds for its id, so there is a finding for each node with an id beyond the different ids.  A report has these
findings in the order of the nodes, and no others. -/
theorem ofValues_indexes (nodes edges : List Value) (r : Registry) (o : Options) :
    let s := Snapshot.ofValues nodes edges
    let ids := s.nodes.filterMap (·.id)
    s.IndexesOf nodes edges ∧
      nodesIssues r o s [] s.nodes = s.nodes.flatMap (fun n => nodeIssues r o s (s.repeats n) n) ∧
      (∀ n ∈ s.nodes, (s.repeats n = true ↔ ∃ id, n.id = some id ∧ s.node? id ≠ some n) ∧
        only .duplicateNodeId (nodeIssues r o s (s.repeats n) n) =
          (if s.repeats n then n.id.toList else []).map repeatIssue) ∧
      (only .duplicateNodeId (nodesIssues r o s [] s.nodes)).length + ids.toFinset.card = ids.length ∧
      ∀ report, s.lint r o = .ok report →
        report.only .duplicateNodeId = ((s.nodes.filter s.repeats).filterMap (·.id)).map repeatIssue := by
  intro s ids
  refine ⟨indexesOf_ofValues nodes edges, nodesIssues_eq_flatMap r o,
    fun n hn => ⟨repeats_iff hn, only_repeated_nodeIssues⟩, ?count, ?report⟩
  case count => simpa using length_only_repeated r o s [] s.nodes
  case report =>
    intro report hreport
    obtain ⟨-, rfl⟩ := Snapshot.lint_eq_ok_iff.mp hreport
    exact only_repeated_issues r o

end Repeats

/-- Nodes of which two repeat the id of another, one has an empty id and one is not even a record. -/
def echoNodes : List Value :=
  [.record [("id", .str "n1")], .record [("id", .str "")], .record [("id", .str "n2")], .null,
    .record [("id", .str "n1"), ("type", .str "dataset_node")], .record [("id", .str "n1")]]

/-- Edges of which two lead into a field of the first node. -/
def fieldEdges : List Value :=
  [.record [("target", .str "n1"), ("targetHandle", .str "b-handle")],
    .record [("target", .str "n1"), ("targetHandle", .str "")],
    .record [("target", .str "n2"), ("targetHandle", .str "c-handle")],
    .record [("target", .str "n1"), ("targetHandle", .str "a")]]

theorem echoNodes_indexes :
    let s := Snapshot.ofValues echoNodes fieldEdges
    s.inboundFields "n1" = ["b", "a"] ∧ s.nodeMap.keys = ["n1", "n2"] ∧
      ∃ report, s.lint .builtin {} = .ok report ∧
        report.only .duplicateNodeId = [repeatIssue "n1", repeatIssue "n1"] := by
  intro s
  have hreport : s.lint .builtin {} = .ok (s.issues .builtin {}) :=
    Snapshot.lint_eq_ok_iff.mpr ⟨by decide +kernel, rfl⟩
  have hall := ofValues_indexes echoNodes fieldEdges .builtin {}
  refine ⟨(hall.1.inbound "n1").trans (by decide +kernel), by decide +kernel, _, hreport, ?_⟩
  exact (hall.2.2.2.2 _ hreport).trans (by decide +kernel)

end WorkflowCheck
