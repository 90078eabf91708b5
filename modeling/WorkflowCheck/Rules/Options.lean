import WorkflowCheck.Decode.Record

/-!
# Options of a run
-/

namespace WorkflowCheck

open Decode

/-- How much of a flow is looked at: all of it, or its nodes one by one. -/
inductive Mode where
  | flow
  | node
  deriving DecidableEq, Repr, Inhabited

/-- The words for the modes. -/
def Mode.words : List (String × Mode) :=
  [("flow", .flow), ("node", .node)]

/-- The word for a mode. -/
def Mode.word : Mode → String
  | .flow => "flow"
  | .node => "node"

/-- The switches of a run. -/
structure Options where
  mode : Mode := .flow
  /-- Every output needs a mark of deletion, and an empty value of a required input counts as none. -/
  strict : Bool := false
  /-- A node without a version is warned about. -/
  requireVersions : Bool := false
  deriving DecidableEq, Repr

namespace Options

/-- Whether edges, overlaps and the graph as a whole are checked. -/
def checksWholeFlow (o : Options) : Bool :=
  o.mode == .flow

/-- The options that a record describes; what it leaves out has its usual value. -/
def read : Value → Checked Options :=
  record "LintOptions" fun v =>
    Options.mk <$> withDefault v (.same "mode") (word Mode.words) .flow
      <*> withDefault v (.same "strict") truth false
      <*> withDefault v (.same "require_versions") truth false

end Options

end WorkflowCheck
