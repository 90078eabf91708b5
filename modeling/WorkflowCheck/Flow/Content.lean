import WorkflowCheck.Flow.View
import WorkflowCheck.Text.Blank
import WorkflowCheck.Value.Same

/-!
# The content of a flow

What holds of a flow in either view: whether two flows have the same content, what is to be
complained about before a flow is saved, and how many nodes and connections it has.
-/

namespace WorkflowCheck.Flow

/-- Whether two flows are the same but for editor state. -/
def sameContent (f g : Flow) : Bool :=
  f.storedWire.same g.storedWire

/-! ### Checks before saving -/

/-- Messages about node ids that came before. -/
def repeatedIds : List String → List String → List String
  | _, [] => []
  | seen, id :: rest =>
    if id ∈ seen then ("Duplicate node id: " ++ id) :: repeatedIds seen rest
    else repeatedIds (id :: seen) rest

/-- Messages about the ends of an edge that are no nodes. -/
def danglingEnds (ids : List String) (index : Nat) (e : StoredEdge) : List String :=
  let place := "Edge at index " ++ toString index ++ " references non-existent "
  (if e.source ∈ ids then [] else [place ++ "source node: " ++ e.source])
    ++ (if e.target ∈ ids then [] else [place ++ "target node: " ++ e.target])

/-- What is wrong with a flow that is to be saved under its name. -/
def saveProblems (f : Flow) : List String :=
  let ids := f.nodes.map (·.id)
  (if (Text.stripBy Text.isBlank f.name.toList).isEmpty then ["Flow name is required"] else [])
    ++ (if ids.isEmpty then ["Flow must contain at least one node"] else [])
    ++ repeatedIds [] ids
    ++ (f.edges.zipIdx.map fun (e, i) => danglingEnds ids i e).flatten

/-! ### Statistics -/

/-- Numbers about a flow. -/
structure Statistics where
  nodeCount : Nat
  edgeCount : Nat
  /-- How many nodes there are of each type. -/
  nodeTypes : Table String Nat
  /-- How many node ids no edge names. -/
  isolatedNodes : Nat
  /-- The ends of edges for each node, to two places. -/
  averageConnections : Double
  deriving Repr

/-- The ids that edges name. -/
def connectedIds (f : Flow) : List String :=
  f.edges.flatMap fun e => [e.source, e.target]

/-- The statistics of a flow; one without nodes has no connections on average. -/
def statistics (f : Flow) : Statistics where
  nodeCount := f.nodes.length
  edgeCount := f.edges.length
  nodeTypes := f.nodes.foldl (fun counts n => counts.count n.type) []
  isolatedNodes := ((f.nodes.map (·.id)).eraseDups.filter (· ∉ f.connectedIds)).length
  averageConnections :=
    if f.nodes.isEmpty then .finite false 0
    else (Double.ofRatio (2 * f.edges.length) f.nodes.length).roundPlaces 2

/-- The statistics as a record. -/
def Statistics.write (s : Statistics) : Value :=
  .record
    [("node_count", .int s.nodeCount), ("edge_count", .int s.edgeCount),
      ("node_types", .record (s.nodeTypes.map fun (t, n) => (t, .int n))),
      ("isolated_nodes", .int s.isolatedNodes),
      ("average_connections", .float s.averageConnections)]

end WorkflowCheck.Flow
