import WorkflowCheck.Rules.Node

/-!
# Rules for edges

Every edge names two nodes of the flow, an output of the first and an input of the second.
-/

namespace WorkflowCheck

/-- The outputs that edges may leave a node from: those that it has and those of its contract. -/
def outputHandles (r : Registry) (n : RawNode) : List String :=
  n.outputIds ++ match r.contractOf? n with
    | some c => c.outputs
    | none => []

/-- The inputs that edges may enter a node by: those that it has and those of its contract. -/
def inputHandles (r : Registry) (n : RawNode) : List String :=
  n.inputIds ++ match r.contractOf? n with
    | some c => allowedInputs n c
    | none => []

/-- An issue of an edge, each of which is an error. -/
def edgeIssue (e : RawEdge) (code : IssueCode) (message : String) : Issue :=
  .ofElement .error code .edge e.id message

/-- The issue of a part that an edge does not have. -/
def absentIssues (e : RawEdge) (part : Option String) (name : String) (code : IssueCode) :
    List Issue :=
  if part.isNone then
    [edgeIssue e code
      ("Edge at index " ++ toString e.index ++ " is missing required field: " ++ name)]
  else []

/-- The issue of an end that is no node. -/
def danglingIssues (s : Snapshot) (e : RawEdge) (ending : Option String) (name : String)
    (code : IssueCode) : List Issue :=
  match ending with
  | none => []
  | some id =>
    if (s.node? id).isSome then []
    else [edgeIssue e code ("Edge references non-existent " ++ name ++ " node: " ++ id)]

/-- The issue of a handle that its node does not have. -/
def handleIssues (s : Snapshot) (e : RawEdge) (ending handle : Option String)
    (handles : RawNode → List String) (name : String) (code : IssueCode) : List Issue :=
  match ending, handle with
  | some id, some h =>
    match s.node? id with
    | none => []
    | some n =>
      if fieldOfHandle h ∈ handles n then []
      else
        [edgeIssue e code
          ("Edge references non-existent " ++ name ++ " handle " ++ h ++ " on node " ++ id)]
  | _, _ => []

/-- Issues of an edge. -/
def edgeIssues (r : Registry) (s : Snapshot) (e : RawEdge) : List Issue :=
  absentIssues e e.source "source" .missingEdgeSource
    ++ absentIssues e e.sourceHandle "sourceHandle" .missingEdgeSourceHandle
    ++ absentIssues e e.target "target" .missingEdgeTarget
    ++ absentIssues e e.targetHandle "targetHandle" .missingEdgeTargetHandle
    ++ danglingIssues s e e.source "source" .invalidEdgeSourceNode
    ++ danglingIssues s e e.target "target" .invalidEdgeTargetNode
    ++ handleIssues s e e.source e.sourceHandle (outputHandles r) "output" .invalidEdgeSourceHandle
    ++ handleIssues s e e.target e.targetHandle (inputHandles r) "input" .invalidEdgeTargetHandle

end WorkflowCheck
