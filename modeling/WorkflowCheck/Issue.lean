import WorkflowCheck.Value.Display

/-!
# Issues

What a run reports about a flow.  Each issue has a code that never changes, a severity, a message,
and the element and field that it is about.
-/

namespace WorkflowCheck

/-- How grave an issue is. -/
inductive Severity where
  | error
  | warning
  deriving DecidableEq, Repr

/-- The kind of element that an issue is about. -/
inductive Element where
  | node
  | edge
  deriving DecidableEq, Repr

/-- The side of a node on which the field of an issue is. -/
inductive FieldSide where
  | input
  | output
  deriving DecidableEq, Repr

/-- What an issue is about. -/
inductive IssueCode where
  | invalidFlowData | missingNodesArray | missingEdgesArray
  | missingNodeId | duplicateNodeId | missingNodeType | invalidNodeType
  | missingNodePosition | invalidNodePosition
  | missingRequiredInput | requiredInputEmpty | missingInputId | unknownInput
  | missingOutputId | invalidOutputDeleted | unknownOutput
  | missingNodeVersion | invalidVersionSyntax | prereleaseVersion
  | nodePositionOverlap
  | missingEdgeSource | missingEdgeSourceHandle | missingEdgeTarget | missingEdgeTargetHandle
  | invalidEdgeSourceNode | invalidEdgeTargetNode | invalidEdgeSourceHandle | invalidEdgeTargetHandle
  | isolatedNode | circularDependency
  deriving DecidableEq, Repr

/-! ### Words -/

/-- The words for the severities. -/
def Severity.words : List (String × Severity) :=
  [("error", .error), ("warning", .warning)]

/-- The word for a severity. -/
def Severity.word : Severity → String
  | .error => "error"
  | .warning => "warning"

/-- The words for the kinds of elements. -/
def Element.words : List (String × Element) :=
  [("node", .node), ("edge", .edge)]

/-- The word for a kind of element. -/
def Element.word : Element → String
  | .node => "node"
  | .edge => "edge"

/-- The words for the sides. -/
def FieldSide.words : List (String × FieldSide) :=
  [("input", .input), ("output", .output)]

/-- The word for a side. -/
def FieldSide.word : FieldSide → String
  | .input => "input"
  | .output => "output"

namespace IssueCode

/-- The name of a code, by which readers of a report tell issues apart. -/
def word : IssueCode → String
  | .invalidFlowData => "invalid-flow-data"
  | .missingNodesArray => "missing-nodes-array"
  | .missingEdgesArray => "missing-edges-array"
  | .missingNodeId => "missing-node-id"
  | .duplicateNodeId => "duplicate-node-id"
  | .missingNodeType => "missing-node-type"
  | .invalidNodeType => "invalid-node-type"
  | .missingNodePosition => "missing-node-position"
  | .invalidNodePosition => "invalid-node-position"
  | .missingRequiredInput => "missing-required-input"
  | .requiredInputEmpty => "required-input-empty"
  | .missingInputId => "missing-input-id"
  | .unknownInput => "unknown-input"
  | .missingOutputId => "missing-output-id"
  | .invalidOutputDeleted => "invalid-output-isdeleted"
  | .unknownOutput => "unknown-output"
  | .missingNodeVersion => "missing-node-version"
  | .invalidVersionSyntax => "invalid-version-syntax"
  | .prereleaseVersion => "prerelease-version"
  | .nodePositionOverlap => "node-position-overlap"
  | .missingEdgeSource => "missing-edge-source"
  | .missingEdgeSourceHandle => "missing-edge-sourcehandle"
  | .missingEdgeTarget => "missing-edge-target"
  | .missingEdgeTargetHandle => "missing-edge-targethandle"
  | .invalidEdgeSourceNode => "invalid-edge-source-node"
  | .invalidEdgeTargetNode => "invalid-edge-target-node"
  | .invalidEdgeSourceHandle => "invalid-edge-source-handle"
  | .invalidEdgeTargetHandle => "invalid-edge-target-handle"
  | .isolatedNode => "isolated-node"
  | .circularDependency => "circular-dependency"

/-- All codes. -/
def all : List IssueCode :=
  [.invalidFlowData, .missingNodesArray, .missingEdgesArray,
    .missingNodeId, .duplicateNodeId, .missingNodeType, .invalidNodeType,
    .missingNodePosition, .invalidNodePosition,
    .missingRequiredInput, .requiredInputEmpty, .missingInputId, .unknownInput,
    .missingOutputId, .invalidOutputDeleted, .unknownOutput,
    .missingNodeVersion, .invalidVersionSyntax, .prereleaseVersion,
    .nodePositionOverlap,
    .missingEdgeSource, .missingEdgeSourceHandle, .missingEdgeTarget, .missingEdgeTargetHandle,
    .invalidEdgeSourceNode, .invalidEdgeTargetNode, .invalidEdgeSourceHandle,
    .invalidEdgeTargetHandle,
    .isolatedNode, .circularDependency]

/-- The codes by their names. -/
def words : List (String × IssueCode) :=
  all.map fun code => (code.word, code)

end IssueCode

/-! ### Issues -/

/-- One thing that a run reports. -/
structure Issue where
  severity : Severity
  message : String
  code : IssueCode
  element : Option Element := none
  elementId : Option String := none
  side : Option FieldSide := none
  fieldId : Option String := none
  deriving DecidableEq, Repr

namespace Issue

/-- An issue about the flow as a whole. -/
def ofFlow (severity : Severity) (code : IssueCode) (message : String) : Issue :=
  { severity, message, code }

/-- An issue about a node or an edge, which may lack an id. -/
def ofElement (severity : Severity) (code : IssueCode) (element : Element) (id : Option String)
    (message : String) : Issue :=
  { severity, message, code, element := some element, elementId := id }

/-- An issue about a field of a node. -/
def ofField (severity : Severity) (code : IssueCode) (node : String) (side : FieldSide)
    (field : Option String) (message : String) : Issue :=
  { ofElement severity code .node (some node) message with side := some side, fieldId := field }

/-- An issue that makes a flow fail. -/
def isError (i : Issue) : Bool :=
  i.severity == .error

/-- An issue that a flow may have and still pass. -/
def isWarning (i : Issue) : Bool :=
  i.severity == .warning

/-- The issue as a record, without what it does not name. -/
def toRecord (i : Issue) : Value :=
  .record <|
    [("severity", .str i.severity.word), ("message", .str i.message), ("code", .str i.code.word)]
      ++ (i.elementId.toList.map fun id => ("elementId", .str id))
      ++ (i.element.toList.map fun e => ("elementType", .str e.word))
      ++ (i.fieldId.toList.map fun id => ("fieldId", .str id))
      ++ (i.side.toList.map fun s => ("fieldType", .str s.word))

/-- Where the issue is, when its element has an id that is not empty. -/
def location (i : Issue) : String :=
  match i.elementId with
  | none => ""
  | some id =>
    if id.isEmpty then ""
    else " [" ++ (match i.element with | some e => e.word | none => "element") ++ "=" ++ id ++ "]"

/-- The issue as a line of text. -/
def text (i : Issue) : String :=
  i.severity.word ++ i.location ++ " " ++ i.code.word ++ ": " ++ i.message

end Issue

/-! ### Reports -/

/-- The issues of a run in order. -/
abbrev Report := List Issue

namespace Report

/-- The errors of a report in order. -/
def errors (r : Report) : List Issue :=
  r.filter (·.isError)

/-- The issues of a report that are no errors, in order. -/
def warnings (r : Report) : List Issue :=
  r.filter (!·.isError)

/-- Whether a report makes its flow fail. -/
def hasErrors (r : Report) : Bool :=
  r.any (·.isError)

end Report

/-! ### Issues from records -/

/-- A value that is none of the words of a vocabulary. -/
structure UnknownWord where
  shown : String
  vocabulary : String
  deriving DecidableEq, Repr

/-- The text of the error. -/
def UnknownWord.message (e : UnknownWord) : String :=
  e.shown ++ " is not a valid " ++ e.vocabulary

/-- The meaning of a word of a vocabulary. -/
def meaning {α : Type} (vocabulary : String) (words : List (String × α)) (v : Value) :
    Except UnknownWord α :=
  match v.text?.bind fun w => Table.get? w words with
  | some a => .ok a
  | none => .error ⟨v.displayInner, vocabulary⟩

/-- The issue that a record describes.  Its words are looked up in the order severity, code, element
and side. -/
def Issue.ofRecord (v : Value) : Except UnknownWord Issue := do
  let severity ← meaning "Severity" Severity.words (v.field "severity")
  let code ← meaning "DiagnosticCode" IssueCode.words (v.field "code")
  let element ← (v.get? "elementType").mapM (meaning "ElementType" Element.words)
  let side ← (v.get? "fieldType").mapM (meaning "FieldType" FieldSide.words)
  return {
    severity, code, element, side
    message := (v.field "message").text?.getD ""
    elementId := (v.field "elementId").text?
    fieldId := (v.field "fieldId").text? }

end WorkflowCheck
