import WorkflowCheck.Rules.Edge
import WorkflowCheck.Rules.Graph

/-!
# Linting a flow

A run takes a raw flow of any form and reports issues in a fixed order: those of the nodes, then, in
a run over the whole flow, those of the edges and of the graph.  A value without lists of nodes and
edges gives a single issue that says so.
-/

namespace WorkflowCheck

/-- Why a run does not end with a report. -/
inductive RunError where
  /-- A coordinate that had to be read is an integer past the largest double. -/
  | oversizedCoordinate
  /-- A value that had to be shown holds an integer of too many digits. -/
  | longInteger
  deriving DecidableEq, Repr

/-- The text of an error. -/
def RunError.message : RunError → String
  | .oversizedCoordinate => "int too large to convert to float"
  | .longInteger =>
    "Exceeds the limit (" ++ toString shownDigits
      ++ " digits) for integer string conversion; use sys.set_int_max_str_digits() to increase the limit"

/-! ### What a run cannot do -/

namespace Snapshot

/-- Whether a run that is at a node reads the coordinates of others and finds oversized ones.  It reads
those of every node that the pair would be reported with. -/
def meetsOversized (s : Snapshot) (n : RawNode) : Bool :=
  n.coordinates?.isSome && s.nodes.any fun other => reportsPair n other && other.place == .oversized

/-- Why a run ends at a node: its type cannot be shown, its coordinates cannot be read, its version
cannot be shown, or the coordinates of another node cannot be read.  Of a node without an id nothing is
shown or read. -/
def nodeError? (s : Snapshot) (r : Registry) (o : Options) (n : RawNode) : Option RunError :=
  if n.id.isNone then none
  else if hasUnknownType r n && !n.type.isShowable then some .longInteger
  else if n.place == .oversized then some .oversizedCoordinate
  else if hasUnknownVersion n && !(n.version.getD .null).isShowable then some .longInteger
  else if o.checksWholeFlow && s.meetsOversized n then some .oversizedCoordinate
  else none

/-- Why a run ends without a report, at the first node where it does. -/
def error? (r : Registry) (o : Options) (s : Snapshot) : Option RunError :=
  s.nodes.findSome? (s.nodeError? r o)

/-- The issues of a snapshot. -/
def issues (r : Registry) (o : Options) (s : Snapshot) : Report :=
  nodesIssues r o s [] s.nodes
    ++ (if o.checksWholeFlow then s.edges.flatMap (edgeIssues r s) ++ graphIssues s else [])

/-- The report of a snapshot. -/
def lint (r : Registry) (o : Options) (s : Snapshot) : Except RunError Report :=
  match s.error? r o with
  | some e => .error e
  | none => .ok (s.issues r o)

end Snapshot

/-! ### Raw flows -/

/-- What a raw flow turns out to be. -/
inductive RawFlow where
  /-- The one issue of a value that is no flow. -/
  | malformed (issue : Issue)
  | snapshot (s : Snapshot)
  deriving Repr

/-- The nodes and edges of a raw flow, or what it lacks. -/
def RawFlow.ofValue (v : Value) : RawFlow :=
  if v.isNull then .malformed (.ofFlow .error .invalidFlowData "Flow data is null or undefined")
  else if !v.isObject then .malformed (.ofFlow .error .invalidFlowData "Flow data must be an object")
  else if !(v.field "nodes").isArray then
    .malformed (.ofFlow .error .missingNodesArray "Flow data must have a nodes array")
  else if !(v.field "edges").isArray then
    .malformed (.ofFlow .error .missingEdgesArray "Flow data must have an edges array")
  else .snapshot (.ofValues (v.field "nodes").items (v.field "edges").items)

/-- The report of a raw flow. -/
def lint (r : Registry) (o : Options) (v : Value) : Except RunError Report :=
  match RawFlow.ofValue v with
  | .malformed issue => .ok [issue]
  | .snapshot s => s.lint r o

/-- The report of a raw flow before one of its nodes is run: the nodes alone are checked. -/
def lintForNode (r : Registry) (o : Options) (v : Value) : Except RunError Report :=
  lint r { o with mode := .node } v

end WorkflowCheck
