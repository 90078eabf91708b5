import WorkflowCheck.Decode.Record
import WorkflowCheck.Flow.Vocabulary

/-!
# Small parts of a flow

Positions, handles, the options of a select input, and the editor's loading states, menu items and
signals, each with how it is read and how it is written.
-/

namespace WorkflowCheck

open Decode

/-! ### Positions -/

/-- A place on the canvas. -/
structure Position where
  x : Double
  y : Double
  deriving DecidableEq, Repr

/-- The position that a record describes; it needs both coordinates. -/
def Position.read : Value → Checked Position :=
  record "Position" fun v =>
    Position.mk <$> required v (.same "x") number <*> required v (.same "y") number

/-- The position as a record. -/
def Position.write (form : Form) (p : Position) : Value :=
  form.record [(.same "x", .float p.x), (.same "y", .float p.y)]

/-! ### Handles -/

/-- How a handle is drawn. -/
structure HandleLook where
  color : HandleColor
  style : Option TextTable
  deriving Repr

/-- The look of a handle that a record describes; it needs a colour. -/
def HandleLook.read : Value → Checked HandleLook :=
  record "HandleConfig" fun v =>
    HandleLook.mk <$> required v (.same "color") (word HandleColor.words)
      <*> optionalField v (.same "style") table

/-- The look of a handle as a record. -/
def HandleLook.write (form : Form) (h : HandleLook) : Value :=
  form.record
    [(.same "color", writeWord HandleColor.words h.color),
      (.same "style", writeOptional TextTable.toValue h.style)]

/-! ### Options of a select input -/

/-- An option with a label of its own. -/
structure SelectOption where
  value : String
  label : String
  disabled : Option Bool
  tooltip : Option String
  deriving DecidableEq, Repr

/-- The option that a record describes; it needs a value and a label. -/
def SelectOption.read : Value → Checked SelectOption :=
  record "SelectOption" fun v =>
    SelectOption.mk <$> required v (.same "value") text <*> required v (.same "label") text
      <*> optionalField v (.same "disabled") truth <*> optionalField v (.same "tooltip") text

/-- The option as a record. -/
def SelectOption.write (form : Form) (o : SelectOption) : Value :=
  form.record
    [(.same "value", .str o.value), (.same "label", .str o.label),
      (.same "disabled", writeOptional Value.bool o.disabled),
      (.same "tooltip", writeOptional Value.str o.tooltip)]

/-- Something to choose: a plain text, or an option with a label. -/
inductive Choice where
  | plain (s : String)
  | labelled (o : SelectOption)
  deriving DecidableEq, Repr

/-- A choice is read as either kind; if it is neither, the problems of both are told. -/
def Choice.read (v : Value) : Checked Choice :=
  match text v with
  | .valid s => .valid (.plain s)
  | .faulty ps =>
    match SelectOption.read v with
    | .valid o => .valid (.labelled o)
    | .faulty qs =>
      .faulty (ps.map (·.under (.key "str")) ++ qs.map (·.under (.key "SelectOption")))

/-- The choice as it is written: a bare text or an option. -/
def Choice.write (form : Form) : Choice → Value
  | .plain s => .str s
  | .labelled o => o.write form

/-! ### Editor state -/

/-- How far the editor has got with loading the options of an input. -/
structure LoadState where
  loaded : Bool
  error : Option String
  lastTime : Option Double
  deriving DecidableEq, Repr

/-- Nothing loaded yet. -/
def LoadState.initial : LoadState :=
  ⟨false, none, none⟩

/-- The state of loading that a record describes. -/
def LoadState.read : Value → Checked LoadState :=
  record "InstanceState" fun v =>
    LoadState.mk <$> withDefault v ⟨"hasLoaded", "has_loaded"⟩ truth false
      <*> optionalField v (.same "error") text
      <*> optionalField v ⟨"lastLoadTime", "last_load_time"⟩ number

/-- The state of loading as a record. -/
def LoadState.write (form : Form) (s : LoadState) : Value :=
  form.record
    [(⟨"hasLoaded", "has_loaded"⟩, .bool s.loaded),
      (.same "error", writeOptional Value.str s.error),
      (⟨"lastLoadTime", "last_load_time"⟩, writeOptional Value.float s.lastTime)]

/-- An entry of a node's menu. -/
structure MenuItem where
  key : String
  label : String
  danger : Option Bool
  deriving DecidableEq, Repr

/-- The menu item that a record describes; it needs a key and a label. -/
def MenuItem.read : Value → Checked MenuItem :=
  record "MenuItem" fun v =>
    MenuItem.mk <$> required v (.same "key") text <*> required v (.same "label") text
      <*> optionalField v (.same "danger") truth

/-- The menu item as a record. -/
def MenuItem.write (form : Form) (m : MenuItem) : Value :=
  form.record
    [(.same "key", .str m.key), (.same "label", .str m.label),
      (.same "danger", writeOptional Value.bool m.danger)]

/-- A signal that arrived at a handle while the flow ran. -/
structure HandleSignal where
  handleId : String
  handleType : String
  data : Value
  timestamp : String
  fromNode : Option String
  toNode : Option String
  deriving Repr

/-- The signal that a record describes. -/
def HandleSignal.read : Value → Checked HandleSignal :=
  record "HandleSignal" fun v =>
    HandleSignal.mk <$> required v ⟨"handleId", "handle_id"⟩ text
      <*> required v ⟨"handleType", "handle_type"⟩ text
      <*> withDefault v (.same "data") Checked.valid .null
      <*> required v (.same "timestamp") text
      <*> optionalField v ⟨"fromNode", "from_node"⟩ text
      <*> optionalField v ⟨"toNode", "to_node"⟩ text

/-- The signal as a record. -/
def HandleSignal.write (form : Form) (s : HandleSignal) : Value :=
  form.record
    [(⟨"handleId", "handle_id"⟩, .str s.handleId), (⟨"handleType", "handle_type"⟩, .str s.handleType),
      (.same "data", s.data), (.same "timestamp", .str s.timestamp),
      (⟨"fromNode", "from_node"⟩, writeOptional Value.str s.fromNode),
      (⟨"toNode", "to_node"⟩, writeOptional Value.str s.toNode)]

end WorkflowCheck
