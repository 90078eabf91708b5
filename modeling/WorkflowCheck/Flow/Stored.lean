import WorkflowCheck.Flow.Shape

/-!
# The stored view

What of a flow is kept when it is saved, and what is linted.
-/

namespace WorkflowCheck

open Decode

/-! ### Inputs and outputs -/

/-- An input of a node. -/
structure StoredInput where
  id : String
  title : String
  type : DataKind
  control : Control
  required : Bool
  placeholder : String
  handle : Option HandleLook
  value : Value
  choices : Option (List Choice)
  min : Option Double
  max : Option Double
  deriving Repr

namespace StoredInput

/-- The input whose fields a record holds; only the id has to be there. -/
def fields (v : Value) : Checked StoredInput :=
  StoredInput.mk <$> Decode.required v (.same "id") filledText
    <*> withDefault v (.same "title") text ""
    <*> withDefault v (.same "type") (word DataKind.words) .text
    <*> withDefault v ⟨"inputType", "input_type"⟩ (word Control.words) .text
    <*> withDefault v (.same "required") truth false
    <*> withDefault v (.same "placeholder") text ""
    <*> optionalField v (.same "handle") HandleLook.read
    <*> withDefault v (.same "value") Checked.valid .null
    <*> optionalField v (.same "options") (list Choice.read)
    <*> optionalField v (.same "min") number
    <*> optionalField v (.same "max") number

/-- The input that a record describes. -/
def read : Value → Checked StoredInput :=
  record "EssentialInput" fields

/-- The fields of the input in the order in which they are written. -/
def entries (form : Form) (i : StoredInput) : List (FieldName × Value) :=
  [(.same "id", .str i.id), (.same "title", .str i.title),
    (.same "type", writeWord DataKind.words i.type),
    (⟨"inputType", "input_type"⟩, writeWord Control.words i.control),
    (.same "required", .bool i.required), (.same "placeholder", .str i.placeholder),
    (.same "handle", writeOptional (HandleLook.write form) i.handle),
    (.same "value", i.value),
    (.same "options", writeOptional (writeList (Choice.write form)) i.choices),
    (.same "min", writeOptional Value.float i.min),
    (.same "max", writeOptional Value.float i.max)]

/-- The input as a record. -/
def write (form : Form) (i : StoredInput) : Value :=
  form.record (i.entries form)

end StoredInput

/-- An output of a node. -/
structure StoredOutput where
  id : String
  title : String
  type : DataKind
  handle : Option HandleLook
  description : Option String
  deriving Repr

namespace StoredOutput

/-- The output whose fields a record holds; only the id has to be there. -/
def fields (v : Value) : Checked StoredOutput :=
  StoredOutput.mk <$> Decode.required v (.same "id") filledText
    <*> withDefault v (.same "title") text ""
    <*> withDefault v (.same "type") (word DataKind.words) .text
    <*> optionalField v (.same "handle") HandleLook.read
    <*> optionalField v (.same "description") text

/-- The output that a record describes. -/
def read : Value → Checked StoredOutput :=
  record "EssentialOutput" fields

/-- The fields of the output in the order in which they are written. -/
def entries (form : Form) (o : StoredOutput) : List (FieldName × Value) :=
  [(.same "id", .str o.id), (.same "title", .str o.title),
    (.same "type", writeWord DataKind.words o.type),
    (.same "handle", writeOptional (HandleLook.write form) o.handle),
    (.same "description", writeOptional Value.str o.description)]

/-- The output as a record. -/
def write (form : Form) (o : StoredOutput) : Value :=
  form.record (o.entries form)

end StoredOutput

/-! ### Nodes -/

/-- What a stored node holds. -/
abbrev StoredData := DataOf StoredInput StoredOutput

/-- The data of a stored node that a record describes. -/
def StoredData.read : Value → Checked StoredData :=
  record "EssentialNodeData" (DataOf.fields StoredInput.read StoredOutput.read)

/-- The data of a stored node as a record. -/
def StoredData.write (form : Form) (d : StoredData) : Value :=
  form.record (DataOf.entries (StoredInput.write form) (StoredOutput.write form) d)

/-- A stored node. -/
abbrev StoredNode := NodeOf StoredData

/-- The stored node that a record describes. -/
def StoredNode.read : Value → Checked StoredNode :=
  record "EssentialNode" (NodeOf.fields StoredData.read .empty)

/-- The stored node as a record. -/
def StoredNode.write (form : Form) (n : StoredNode) : Value :=
  form.record (NodeOf.entries form (StoredData.write form) n)

/-! ### Edges -/

/-- A connection from an output handle to an input handle. -/
structure StoredEdge where
  id : String
  source : String
  target : String
  sourceHandle : String
  targetHandle : String
  deriving DecidableEq, Repr

namespace StoredEdge

/-- The edge whose fields a record holds; its four ends have to be there, its id not. -/
def fields (v : Value) : Checked StoredEdge :=
  StoredEdge.mk <$> withDefault v (.same "id") text ""
    <*> Decode.required v (.same "source") text
    <*> Decode.required v (.same "target") text
    <*> Decode.required v ⟨"sourceHandle", "source_handle"⟩ text
    <*> Decode.required v ⟨"targetHandle", "target_handle"⟩ text

/-- The edge that a record describes. -/
def read : Value → Checked StoredEdge :=
  record "EssentialEdge" fields

/-- The fields of the edge in the order in which they are written. -/
def entries (e : StoredEdge) : List (FieldName × Value) :=
  [(.same "id", .str e.id), (.same "source", .str e.source), (.same "target", .str e.target),
    (⟨"sourceHandle", "source_handle"⟩, .str e.sourceHandle),
    (⟨"targetHandle", "target_handle"⟩, .str e.targetHandle)]

/-- The edge as a record. -/
def write (form : Form) (e : StoredEdge) : Value :=
  form.record e.entries

/-- Whether the edge starts or ends at a node. -/
def touches (e : StoredEdge) (node : String) : Bool :=
  e.source == node || e.target == node

end StoredEdge

/-! ### Flows -/

/-- A flow as it is stored. -/
abbrev StoredFlow := FlowOf StoredNode StoredEdge

/-- The flow in the stored view that a record describes. -/
def StoredFlow.read : Value → Checked StoredFlow :=
  record "EssentialFlow" (FlowOf.fields StoredNode.read StoredEdge.read)

/-- The flow in the stored view as a record. -/
def StoredFlow.write (form : Form) (f : StoredFlow) : Value :=
  FlowOf.write form (StoredNode.write form) (StoredEdge.write form) f

end WorkflowCheck
