import WorkflowCheck.Graph.Snapshot
import WorkflowCheck.Issue
import WorkflowCheck.Registry.Basic
import WorkflowCheck.Rules.Options
import WorkflowCheck.Rules.Version
import WorkflowCheck.Value.Display

/-!
# Rules for nodes

What is checked of each node: that it has an id of its own, a known type and a place; that its
inputs and outputs are those of its type's contract; its version; and, in a run over the whole flow,
that it does not lie over another node.
-/

namespace WorkflowCheck

/-! ### What a contract says of a node -/

/-- The name that an entry of a parameter list gives: a field `name` or else `key` of an object, the
first item of a row, or a bare string. -/
def entryName (entry : Value) : Option String :=
  if entry.isObject then ((entry.get? "name").getD (entry.field "key")).filledText?
  else if entry.isArray then entry.items.head?.bind Value.filledText?
  else entry.filledText?

/-- The inputs that a node names in the parameter list of its contract. -/
def dynamicInputs (n : RawNode) (c : Contract) : List String :=
  match c.dynamicName?.bind n.findInput? with
  | some holder => holder.value.items.filterMap entryName
  | none => []

/-- The inputs that a node may have by its contract. -/
def allowedInputs (n : RawNode) (c : Contract) : List String :=
  c.declaredInputs ++ dynamicInputs n c

namespace Registry

/-- The contract of a node whose type is a known string. -/
def contractOf? (r : Registry) (n : RawNode) : Option Contract :=
  n.type.text?.bind r.get?

/-- The contract by which a node is checked: that of its type, if there is a type at all. -/
def checkedContract? (r : Registry) (n : RawNode) : Option Contract :=
  if n.type.isVoid then none else r.contractOf? n

theorem checkedContract?_eq_some_iff {r : Registry} {n : RawNode} {c : Contract} :
    r.checkedContract? n = some c ↔ n.type.isVoid = false ∧ r.contractOf? n = some c := by
  rw [checkedContract?]
  cases n.type.isVoid <;> simp

theorem checkedContract?_of_not_isVoid {r : Registry} {n : RawNode} (h : n.type.isVoid = false) :
    r.checkedContract? n = r.contractOf? n := by
  rw [checkedContract?, h, if_neg Bool.false_ne_true]

end Registry

/-! ### Type and place -/

/-- Whether a node has a type that is not known. -/
def hasUnknownType (r : Registry) (n : RawNode) : Bool :=
  !n.type.isVoid && (r.contractOf? n).isNone

/-- Issues of a node's type. -/
def typeIssues (r : Registry) (n : RawNode) (id : String) : List Issue :=
  if n.type.isVoid then
    [.ofElement .error .missingNodeType .node id "Node is missing required field: type"]
  else if hasUnknownType r n then
    [.ofElement .error .invalidNodeType .node id ("Unknown node type: " ++ n.type.display)]
  else []

/-- Issues of a node's position. -/
def positionIssues (n : RawNode) (id : String) : List Issue :=
  if n.position.isNull then
    [.ofElement .error .missingNodePosition .node id "Node is missing required field: position"]
  else if n.coordinates?.isNone then
    [.ofElement .error .invalidNodePosition .node id
      "Node position must have numeric x and y coordinates"]
  else []

/-! ### Inputs -/

/-- Whether an input has no value.  In a strict run an empty one is none. -/
def isUnset (o : Options) (i : RawInput) : Bool :=
  if o.strict then i.value.isEmpty else i.value.isNull

/-- Whether an edge leads into a field of a node. -/
def isConnected (s : Snapshot) (id field : String) : Bool :=
  (s.inboundFields id).any fun handle => namesField handle field

/-- Issues of an input that the contract requires. -/
def requiredIssues (o : Options) (s : Snapshot) (n : RawNode) (id required : String) : List Issue :=
  match n.findInput? required with
  | none =>
    [.ofField .error .missingRequiredInput id .input required
      ("Node " ++ id ++ " is missing required input: " ++ required)]
  | some i =>
    if isUnset o i && !isConnected s id required then
      [.ofField .error .requiredInputEmpty id .input required
        ("Node " ++ id ++ " required input " ++ required
          ++ " has no value and no incoming connection")]
    else []

/-- Issues of an input that a node has. -/
def inputIssues (allowed : List String) (id : String) (i : RawInput) : List Issue :=
  match i.id with
  | none =>
    [.ofElement .error .missingInputId .node id
      ("Node " ++ id ++ " input at index " ++ toString i.index ++ " is missing id")]
  | some field =>
    if field ∈ allowed then []
    else
      [.ofField .warning .unknownInput id .input field
        ("Node " ++ id ++ " has unknown input: " ++ field)]

/-- Issues of all inputs of a node. -/
def inputsIssues (o : Options) (s : Snapshot) (n : RawNode) (id : String) (c : Contract) :
    List Issue :=
  c.requiredInputs.flatMap (requiredIssues o s n id)
    ++ n.inputs.flatMap (inputIssues (allowedInputs n c) id)

/-! ### Outputs -/

/-- Whether a mark of deletion is a truth value. -/
def isTruthValue : Option Value → Bool
  | some (.bool _) => true
  | _ => false

/-- Issues of an output that a node has. -/
def outputIssues (o : Options) (id : String) (c : Contract) (out : RawOutput) : List Issue :=
  let label := out.id.getD ("at index " ++ toString out.index)
  (if out.id.isNone then
    [.ofElement .error .missingOutputId .node id
      ("Node " ++ id ++ " output at index " ++ toString out.index ++ " is missing id")]
  else [])
  ++ (if (o.strict || out.deleted.isSome) && !isTruthValue out.deleted then
    [.ofField .error .invalidOutputDeleted id .output out.id
      ("Node " ++ id ++ " output " ++ label ++ " must have boolean isDeleted field")]
  else [])
  ++ (match out.id with
    | some field =>
      if field ∈ c.outputs then []
      else
        [.ofField .warning .unknownOutput id .output field
          ("Node " ++ id ++ " has unknown output: " ++ field)]
    | none => [])

/-! ### Version -/

/-- Whether a node has a version that is no tag of one. -/
def hasUnknownVersion (n : RawNode) : Bool :=
  let v := n.version.getD .null
  !v.isNull && (v.text?.bind Version.ofTag?).isNone

/-- Issues of a node's version.  A null version is none at all. -/
def versionIssues (o : Options) (n : RawNode) (id : String) : List Issue :=
  match n.version.getD .null with
  | .null =>
    if o.requireVersions then
      [.ofElement .warning .missingNodeVersion .node id
        ("Node " ++ id ++ " has no version, defaulting to latest")]
    else []
  | v =>
    match v.text?.bind Version.ofTag? with
    | none =>
      [.ofElement .error .invalidVersionSyntax .node id
        ("Node " ++ id ++ " has invalid version syntax: " ++ v.display)]
    | some version =>
      if version.isPrerelease then
        [.ofElement .warning .prereleaseVersion .node id
          ("Node " ++ id ++ " uses prerelease version " ++ version.raw)]
      else []

/-! ### Overlap -/

/-- The width that a node takes up. -/
def nodeWidth : Double :=
  .ofRatio 100 1

/-- The height that a node takes up. -/
def nodeHeight : Double :=
  .ofRatio 50 1

/-- Whether two nodes at these coordinates lie over one another. -/
def overlaps (a b : Double × Double) : Bool :=
  a.1.below (b.1 + nodeWidth) && b.1.below (a.1 + nodeWidth)
    && a.2.below (b.2 + nodeHeight) && b.2.below (a.2 + nodeHeight)

/-- Whether a pair of nodes is reported from the first of them: from the earlier one, or from the
later one when the earlier has no id. -/
def reportsPair (n other : RawNode) : Bool :=
  !(other.index == n.index || (decide (other.index < n.index) && other.id.isSome))

/-- The issue of a node that lies over another one. -/
def overlapIssue (id : String) (other : RawNode) : Issue :=
  .ofElement .warning .nodePositionOverlap .node id
    ("Node overlaps with node " ++ other.id.getD ("at index " ++ toString other.index))

/-- Issues of a node that lies over others. -/
def overlapIssues (s : Snapshot) (n : RawNode) (id : String) : List Issue :=
  match n.coordinates? with
  | none => []
  | some here =>
    s.nodes.filterMap fun other =>
      match other.coordinates? with
      | some there =>
        if reportsPair n other && !(other.id == some id) && overlaps here there then
          some (overlapIssue id other)
        else none
      | none => none

/-! ### All rules -/

/-- Issues of a node, which repeats the id of an earlier one or does not. -/
def nodeIssues (r : Registry) (o : Options) (s : Snapshot) (repeated : Bool) (n : RawNode) :
    List Issue :=
  match n.id with
  | none =>
    [.ofElement .error .missingNodeId .node none
      ("Node at index " ++ toString n.index ++ " is missing required field: id")]
  | some id =>
    (if repeated then
      [.ofElement .error .duplicateNodeId .node id ("Duplicate node ID: " ++ id)]
    else [])
      ++ typeIssues r n id
      ++ positionIssues n id
      ++ (match r.checkedContract? n with
        | some c => inputsIssues o s n id c ++ n.outputs.flatMap (outputIssues o id c)
        | none => [])
      ++ versionIssues o n id
      ++ (if o.checksWholeFlow then overlapIssues s n id else [])

/-- Issues of nodes behind others with the ids `seen`. -/
def nodesIssues (r : Registry) (o : Options) (s : Snapshot) : List String → List RawNode → List Issue
  | _, [] => []
  | seen, n :: ns =>
    nodeIssues r o s (n.id.any (· ∈ seen)) n ++ nodesIssues r o s (n.id.toList ++ seen) ns

end WorkflowCheck
