import WorkflowCheck.Rules.Graph

/-!
# What the indexes of a snapshot hold

A snapshot is looked up through tables that are filled in one pass over its nodes or edges.  Each of
them answers as a scan of the whole list would: the node of an id is the first one that bears it
(`Snapshot.node?_ofValues`), the inbound fields of a node are those of the edges into it
(`Snapshot.inboundFields_ofValues`), and the successors of an id are the targets of the edges from it
(`Snapshot.successors_adjacency`), each in the order of the edges.
-/

namespace WorkflowCheck

/-! ### Tables that are filled in one pass -/

namespace Table

variable {κ α β : Type} [DecidableEq κ]

theorem get?_push (k k' : κ) (a : α) (t : Table κ (List α)) :
    ((t.push k a).get? k').getD [] =
      (t.get? k').getD [] ++ if k = k' then [a] else [] := by
  by_cases h : k = k'
  · subst h
    simp [push]
  · rw [push, get?_alter_of_ne h, if_neg h, List.append_nil]

/-- A table of lists to which each element adds at most one entry lists for a key what the elements
add to it, in their order. -/
theorem get?_foldl_collect {step : Table κ (List α) → β → Table κ (List α)}
    {pick : κ → β → Option α}
    (hstep : ∀ t e k, ((step t e).get? k).getD [] = (t.get? k).getD [] ++ (pick k e).toList) :
    ∀ (es : List β) (t : Table κ (List α)) (k : κ),
      ((es.foldl step t).get? k).getD [] = (t.get? k).getD [] ++ es.filterMap (pick k)
  | [], t, k => by simp
  | e :: es, t, k => by
    rw [List.foldl_cons, get?_foldl_collect hstep es, hstep, List.append_assoc]
    cases h : pick k e <;> simp [h]

end Table

/-! ### The indexes -/

namespace Snapshot

/-- The target of an edge that starts at an id. -/
def targetFrom (id : String) (e : RawEdge) : Option String :=
  if e.source = some id then e.target else none

/-- The field that an edge into a node leads to. -/
def fieldInto (id : String) (e : RawEdge) : Option String :=
  if e.target = some id then e.targetField else none

theorem successors_connect (g : Adjacency) (e : RawEdge) (id : String) :
    (connect g e).successors id = g.successors id ++ (targetFrom id e).toList := by
  unfold connect targetFrom Adjacency.successors
  cases hs : e.source with
  | none => simp
  | some source =>
    cases ht : e.target with
    | none => simp
    | some target =>
      rw [Table.get?_push]
      by_cases h : source = id <;> simp [h]

/-- The successors of an id are the targets of the edges from it, in the order of the edges. -/
theorem successors_adjacency (s : Snapshot) (id : String) :
    s.adjacency.successors id = s.edges.filterMap (targetFrom id) :=
  Table.get?_foldl_collect (fun g e k => successors_connect g e k) s.edges [] id

theorem get?_indexEdge (t : Table String (List String)) (e : RawEdge) (id : String) :
    ((indexEdge t e).get? id).getD [] = (t.get? id).getD [] ++ (fieldInto id e).toList := by
  unfold indexEdge fieldInto
  cases ht : e.target with
  | none => simp
  | some target =>
    cases hf : e.targetField with
    | none => simp
    | some field =>
      rw [Table.get?_push]
      by_cases h : target = id <;> simp [h]

/-- The inbound fields of a node are the fields of the edges into it, in the order of the edges. -/
theorem inboundFields_ofValues (nodes edges : List Value) (id : String) :
    (ofValues nodes edges).inboundFields id =
      (readIndexed RawEdge.ofValue edges).filterMap (fieldInto id) :=
  Table.get?_foldl_collect (fun t e k => get?_indexEdge t e k) _ [] id

theorem get?_indexNode (t : Table String RawNode) (n : RawNode) (id : String) :
    (indexNode t n).get? id = (t.get? id).or (if n.id = some id then some n else none) := by
  unfold indexNode
  cases hn : n.id with
  | none => simp
  | some k =>
    by_cases h : k = id
    · subst h
      cases ht : t.get? k <;> simp [Table.putNew, ht]
    · simp only [Table.putNew]
      rw [Table.get?_alter_of_ne h]
      simp [h]

theorem get?_foldl_indexNode (id : String) :
    ∀ (ns : List RawNode) (t : Table String RawNode),
      (ns.foldl indexNode t).get? id = (t.get? id).or (ns.find? fun n => n.id = some id)
  | [], t => by simp
  | n :: ns, t => by
    rw [List.foldl_cons, get?_foldl_indexNode id ns, get?_indexNode, Option.or_assoc]
    by_cases h : n.id = some id <;> simp [h]

/-- Each node has a place behind those before it. -/
theorem places_ofValues (nodes edges : List Value) :
    (ofValues nodes edges).nodes.Pairwise fun m n => m.index < n.index := by
  show (readIndexed RawNode.ofValue nodes).Pairwise fun m n => m.index < n.index
  rw [List.pairwise_iff_getElem]
  intro i j hi hj hij
  simpa [readIndexed, RawNode.ofValue] using hij

/-- The node of an id is the first one that bears it. -/
theorem node?_ofValues (nodes edges : List Value) (id : String) :
    (ofValues nodes edges).node? id =
      (readIndexed RawNode.ofValue nodes).find? fun n => n.id = some id := by
  have h := get?_foldl_indexNode id (readIndexed RawNode.ofValue nodes) []
  rwa [Table.get?, Option.none_or] at h

end Snapshot

end WorkflowCheck
