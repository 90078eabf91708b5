import Mathlib.Logic.Relation
import WorkflowCheck.Proofs.Flow.Handle
import WorkflowCheck.Proofs.Graph.Place
import WorkflowCheck.Proofs.Rules.Version
import WorkflowCheck.Registry.Basic

/-!
# Well-formed flows

What a raw flow must be like, said of its values and of a registry alone: no snapshot, no index, no rule
and no search takes part.  `WellFormed` is put together from what is asked of a node (`WellFormedNode`),
of an edge (`WellFormedEdge`) and of the relation that the edges give (`Leads`).
-/

namespace WorkflowCheck

open Relation

/-! ### The parts of a flow -/

/-- The raw nodes of a flow. -/
def flowNodes (flow : Value) : List Value :=
  (flow.field "nodes").items

/-- The raw edges of a flow. -/
def flowEdges (flow : Value) : List Value :=
  (flow.field "edges").items

/-- The first node of a flow that has an id. -/
def FirstNode (flow : Value) (id : String) (n : Value) : Prop :=
  ∃ before after, flowNodes flow = before ++ n :: after ∧ n.Names "id" id ∧
    ∀ m ∈ before, ¬ m.Names "id" id

/-- A flow is an object with a list of nodes and a list of edges. -/
def HasLists (flow : Value) : Prop :=
  flow.isObject = true ∧ (flow.field "nodes").isArray = true ∧ (flow.field "edges").isArray = true

/-- The raw inputs of a node, from where it keeps its fields. -/
def nodeInputs (n : Value) : List Value :=
  ((RawNode.holder n).field "inputs").items

/-- The raw outputs of a node, from where it keeps its fields. -/
def nodeOutputs (n : Value) : List Value :=
  ((RawNode.holder n).field "outputs").items

/-- A node's type is a string that the registry has a contract for. -/
def HasContract (r : Registry) (n : Value) (c : Contract) : Prop :=
  ∃ type, n.field "type" = .str type ∧ r.get? type = some c

/-- A node's position is an object with two numbers. -/
def HasPosition (n : Value) : Prop :=
  (n.field "position").isObject = true ∧ (n.field "position").HasNumbers

/-- A node has no version, or one that is a tag. -/
def HasUsableVersion (n : Value) : Prop :=
  n.field "version" = .null ∨ ∃ tag, n.field "version" = .str tag ∧ Version.IsTag tag

/-! ### Inputs and outputs -/

/-- The first input of a node that has an id. -/
def FirstInput (n : Value) (id : String) (i : Value) : Prop :=
  ∃ before after, nodeInputs n = before ++ i :: after ∧ i.Names "id" id ∧
    ∀ j ∈ before, ¬ j.Names "id" id

/-- What counts as no value: null, and in a strict run also what is empty. -/
inductive Unset (strict : Bool) : Value → Prop
  | null : Unset strict .null
  | text : strict = true → Unset strict (.str "")
  | array : strict = true → Unset strict (.arr [])
  | object : strict = true → Unset strict (.obj [])
  | set : strict = true → Unset strict (.set [])

/-- Some edge leads to a node by a handle that names a field. -/
def IsFed (flow : Value) (id field : String) : Prop :=
  ∃ e ∈ flowEdges flow, e.Names "target" id ∧
    ∃ handle, e.Names "targetHandle" handle ∧ HandleNames (fieldOfHandle handle) field

/-- An output has an id, and its mark of deletion is a truth value if it has one or must have one. -/
def WellFormedOutput (strict : Bool) (out : Value) : Prop :=
  (∃ id, out.Names "id" id) ∧
    ((strict = true ∨ out.has "isDeleted" = true) → ∃ b, out.field "isDeleted" = .bool b)

/-! ### Nodes -/

/-- What is asked of a node with an id and a contract. -/
structure WellFormedNode (strict : Bool) (flow n : Value) (id : String) (c : Contract) : Prop where
  object : n.isObject = true
  names : n.Names "id" id
  typed : n.field "type" ≠ .str ""
  position : HasPosition n
  required : ∀ field ∈ c.requiredInputs, ∃ i, FirstInput n field i ∧
    (¬ Unset strict (i.field "value") ∨ IsFed flow id field)
  inputs : ∀ i ∈ nodeInputs n, ∃ field, i.Names "id" field
  outputs : ∀ out ∈ nodeOutputs n, WellFormedOutput strict out
  version : HasUsableVersion n

/-! ### Edges -/

/-- An entry of a parameter list names an input: an object by its `name` or else its `key`, a row by
its first item, a string as it is. -/
inductive EntryNames : Value → String → Prop
  | name {entry : Value} {field : String} :
      entry.get? "name" = some (.str field) → field ≠ "" → EntryNames entry field
  | key {entry : Value} {field : String} :
      entry.get? "name" = none → entry.Names "key" field → EntryNames entry field
  | row {entry : Value} {field : String} :
      entry.items.head? = some (.str field) → field ≠ "" → EntryNames entry field
  | text {field : String} : field ≠ "" → EntryNames (.str field) field

/-- An input that a node lists in the input which its contract names for that. -/
def IsDynamicInput (n : Value) (c : Contract) (field : String) : Prop :=
  ∃ list, c.dynamicField = some list ∧ ∃ holder, FirstInput n list holder ∧
    ∃ entry ∈ (holder.field "value").items, EntryNames entry field

/-- An edge may leave a node by an output that the node has or its contract names. -/
def OffersOutput (r : Registry) (n : Value) (field : String) : Prop :=
  (∃ out ∈ nodeOutputs n, out.Names "id" field) ∨ ∃ c, HasContract r n c ∧ field ∈ c.outputs

/-- An edge may enter a node by an input that the node has, its contract names, or the node lists. -/
def OffersInput (r : Registry) (n : Value) (field : String) : Prop :=
  (∃ i ∈ nodeInputs n, i.Names "id" field) ∨
    ∃ c, HasContract r n c ∧ (field ∈ c.declaredInputs ∨ IsDynamicInput n c field)

/-- What is asked of an edge from a source by an output handle to a target by an input handle. -/
structure WellFormedEdge (r : Registry) (flow e : Value) (source outHandle target inHandle : String) :
    Prop where
  hasSource : e.Names "source" source
  hasOutHandle : e.Names "sourceHandle" outHandle
  hasTarget : e.Names "target" target
  hasInHandle : e.Names "targetHandle" inHandle
  leaves : ∃ n ∈ flowNodes flow, n.Names "id" source ∧ OffersOutput r n (fieldOfHandle outHandle)
  enters : ∃ n ∈ flowNodes flow, n.Names "id" target ∧ OffersInput r n (fieldOfHandle inHandle)

/-- Some edge leads from an id to another one. -/
def Leads (flow : Value) (a b : String) : Prop :=
  ∃ e ∈ flowEdges flow, e.Names "source" a ∧ e.Names "target" b

/-! ### Flows -/

/-- A flow that nothing is wrong with. -/
structure WellFormed (r : Registry) (strict : Bool) (flow : Value) : Prop where
  lists : HasLists flow
  node : ∀ n ∈ flowNodes flow, ∃ id c, HasContract r n c ∧ WellFormedNode strict flow n id c
  distinct : (flowNodes flow).Pairwise fun m n => m.field "id" ≠ n.field "id"
  edge : ∀ e ∈ flowEdges flow, ∃ source outHandle target inHandle,
    WellFormedEdge r flow e source outHandle target inHandle
  acyclic : ∀ id, ¬ TransGen (Leads flow) id id

/-! ### Coordinates -/

/-- Every coordinate that is an integer fits a double. -/
def CoordinatesFit (flow : Value) : Prop :=
  ∀ n ∈ flowNodes flow, (n.field "position").HasFittingNumbers

end WorkflowCheck
