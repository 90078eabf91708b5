import WorkflowCheck.Graph.Snapshot
import WorkflowCheck.Graph.Walk
import WorkflowCheck.Issue

/-!
# Rules for the graph

What is checked of the flow as a whole: that every node is connected, and that no node depends on
itself by way of others.
-/

namespace WorkflowCheck

/-! ### Isolated nodes -/

namespace Snapshot

/-- The ids that edges name. -/
def connectedIds (s : Snapshot) : List String :=
  s.edges.flatMap fun e => e.source.toList ++ e.target.toList

end Snapshot

/-- The issue of a node that no edge names. -/
def isolationIssue (id : String) : Issue :=
  .ofElement .warning .isolatedNode .node id
    ("Node " ++ id ++ " is isolated (not connected to any other nodes)")

/-- Issues of nodes that no edge names, in a flow of more than one node. -/
def isolationIssues (s : Snapshot) : List Issue :=
  if s.nodes.length ≤ 1 then []
  else ((s.nodes.filterMap (·.id)).filter (· ∉ s.connectedIds)).map isolationIssue

/-! ### Circular dependencies -/

namespace Snapshot

/-- The graph with one more edge, if both its ends are there. -/
def connect (g : Adjacency) (e : RawEdge) : Adjacency :=
  match e.source, e.target with
  | some source, some target => g.push source target
  | _, _ => g

/-- The graph of the edges of a flow. -/
def adjacency (s : Snapshot) : Adjacency :=
  s.edges.foldl connect []

end Snapshot

/-- The issue of a circle of nodes. -/
def cycleIssue (cycle : List String) : Issue :=
  .ofElement .error .circularDependency .node cycle.head?
    ("Circular dependency detected: " ++ " -> ".intercalate cycle)

/-- The circles that walks from some roots close, one after the other. -/
def cyclesFrom (g : Adjacency) : List String → List String → List (List String)
  | _, [] => []
  | visited, root :: roots =>
    if root ∈ visited then cyclesFrom g visited roots
    else
      let walk := Walk.fromRoot g root visited
      walk.cycle.toList ++ cyclesFrom g walk.visited roots

/-- Issues of circles that are met from the nodes in their order. -/
def cycleIssues (s : Snapshot) : List Issue :=
  (cyclesFrom s.adjacency [] (s.nodes.filterMap (·.id))).map cycleIssue

/-- Issues of the graph. -/
def graphIssues (s : Snapshot) : List Issue :=
  isolationIssues s ++ cycleIssues s

end WorkflowCheck
