import WorkflowCheck.Flow.View

/-!
# Opening a saved flow

A saved flow may have been written in either view.  It is taken for the editor view when one of its
nodes has a width or a class name, and for the stored view otherwise.
-/

namespace WorkflowCheck

open Decode

/-- Why a saved value does not open as a flow. -/
inductive RestoreError where
  | notObject
  | noNodes
  | noEdges
  | faulty (problems : List Problem)
  deriving DecidableEq, Repr

/-- The text of an error about the shape of the value; problems have texts of their own. -/
def RestoreError.message : RestoreError → String
  | .notObject => "saved flow must be an object"
  | .noNodes => "invalid flow data: missing nodes array"
  | .noEdges => "invalid flow data: missing edges array"
  | .faulty _ => ""

/-- Whether a node shows traces of the editor. -/
def looksEdited (node : Value) : Bool :=
  node.has "width" || node.has "className"

/-- The flow of a saved value, opened in the editor. -/
def restoreFlow (v : Value) : Except RestoreError EditorFlow :=
  if !v.isObject then .error .notObject
  else if !(v.field "nodes").isList then .error .noNodes
  else if !(v.field "edges").isList then .error .noEdges
  else
    let read :=
      if (v.field "nodes").items.any looksEdited then EditorFlow.read v
      else (StoredFlow.read v).map StoredFlow.toEditor
    match read with
    | .valid f => .ok f
    | .faulty ps => .error (.faulty ps)

/-- A quick look at whether a value may be a saved flow: a name, nodes and edges. -/
def looksLikeFlow (v : Value) : Bool :=
  v.isObject && (v.field "nodes").isList && (v.field "edges").isList
    && ((v.field "name").text?).isSome

end WorkflowCheck
