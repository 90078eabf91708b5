import WorkflowCheck.Flow.Part

/-!
# The shape of a flow

A flow is kept in two views: the stored view, which holds what the flow is, and the editor view,
which adds the state of the canvas.  Both have the same shape, given here once: nodes with data and
fields, edges between handles.  A view fills in what its fields, nodes and edges are.
-/

namespace WorkflowCheck

open Decode

/-! ### Data of a node -/

/-- What a node holds, with inputs and outputs of given kinds. -/
structure DataOf (ι ο : Type) where
  title : String
  description : String
  collection : Collection
  inputs : List ι
  outputs : List ο
  deriving Repr

namespace DataOf

variable {ι ο ι' ο' : Type}

/-- No title, no fields. -/
def empty : DataOf ι ο :=
  ⟨"", "", .core, [], []⟩

/-- The data whose fields a record holds; each of them may be left out. -/
def fields (readInput : Value → Checked ι) (readOutput : Value → Checked ο) (v : Value) :
    Checked (DataOf ι ο) :=
  DataOf.mk <$> withDefault v (.same "title") text ""
    <*> withDefault v (.same "description") text ""
    <*> withDefault v (.same "collection") (word Collection.words) .core
    <*> withDefault v (.same "inputs") (list readInput) []
    <*> withDefault v (.same "outputs") (list readOutput) []

/-- The fields of the data in the order in which they are written. -/
def entries (writeInput : ι → Value) (writeOutput : ο → Value) (d : DataOf ι ο) :
    List (FieldName × Value) :=
  [(.same "title", .str d.title), (.same "description", .str d.description),
    (.same "collection", writeWord Collection.words d.collection),
    (.same "inputs", writeList writeInput d.inputs),
    (.same "outputs", writeList writeOutput d.outputs)]

/-- The data with every field changed. -/
def map (f : ι → ι') (g : ο → ο') (d : DataOf ι ο) : DataOf ι' ο' :=
  { d with inputs := d.inputs.map f, outputs := d.outputs.map g }

end DataOf

/-! ### Nodes -/

/-- A node with data of a given kind. -/
structure NodeOf (δ : Type) where
  id : String
  type : String
  position : Position
  version : Option String
  data : δ
  deriving Repr

namespace NodeOf

variable {δ δ' : Type}

/-- The node whose fields a record holds; it needs an id, a type and a position. -/
def fields (readData : Value → Checked δ) (noData : δ) (v : Value) : Checked (NodeOf δ) :=
  NodeOf.mk <$> required v (.same "id") filledText
    <*> required v (.same "type") filledText
    <*> required v (.same "position") Position.read
    <*> optionalField v (.same "version") text
    <*> withDefault v (.same "data") readData noData

/-- The fields of the node in the order in which they are written. -/
def entries (form : Form) (writeData : δ → Value) (n : NodeOf δ) : List (FieldName × Value) :=
  [(.same "id", .str n.id), (.same "type", .str n.type),
    (.same "position", n.position.write form),
    (.same "version", writeOptional Value.str n.version),
    (.same "data", writeData n.data)]

/-- The node with its data changed. -/
def map (f : δ → δ') (n : NodeOf δ) : NodeOf δ' :=
  { n with data := f n.data }

end NodeOf

/-! ### Flows -/

/-- A flow with nodes and edges of given kinds. -/
structure FlowOf (ν ε : Type) where
  name : String
  thumbnail : Option String
  nodes : List ν
  edges : List ε
  deriving Repr

namespace FlowOf

variable {ν ε ν' ε' : Type}

/-- The flow whose fields a record holds; each of them may be left out. -/
def fields (readNode : Value → Checked ν) (readEdge : Value → Checked ε) (v : Value) :
    Checked (FlowOf ν ε) :=
  FlowOf.mk <$> withDefault v (.same "name") text ""
    <*> optionalField v ⟨"thumbnailUrl", "thumbnail_url"⟩ text
    <*> withDefault v (.same "nodes") (list readNode) []
    <*> withDefault v (.same "edges") (list readEdge) []

/-- The flow as a record. -/
def write (form : Form) (writeNode : ν → Value) (writeEdge : ε → Value) (f : FlowOf ν ε) : Value :=
  form.record
    [(.same "name", .str f.name),
      (⟨"thumbnailUrl", "thumbnail_url"⟩, writeOptional Value.str f.thumbnail),
      (.same "nodes", writeList writeNode f.nodes),
      (.same "edges", writeList writeEdge f.edges)]

/-- The flow with every node and edge changed. -/
def map (f : ν → ν') (g : ε → ε') (flow : FlowOf ν ε) : FlowOf ν' ε' :=
  { flow with nodes := flow.nodes.map f, edges := flow.edges.map g }

end FlowOf

end WorkflowCheck
