import WorkflowCheck.Decode.Record
import WorkflowCheck.Text.Sorted

/-!
# Contracts

What a type of node promises: the inputs that it requires, those that it may have, and its outputs.
An input may be named whose value lists further inputs.
-/

namespace WorkflowCheck

open Decode

/-- What a type of node is for. -/
inductive Category where
  | input | compute | trade | output
  deriving DecidableEq, Repr, Inhabited

/-- The words for the categories. -/
def Category.words : List (String × Category) :=
  [("input", .input), ("compute", .compute), ("trade", .trade), ("output", .output)]

/-- The declared inputs and outputs of a type of node. -/
structure Contract where
  type : String
  category : Category
  description : String
  requiredInputs : List String
  optionalInputs : List String
  outputs : List String
  /-- The input whose value lists further inputs. -/
  dynamicField : Option String
  deriving DecidableEq, Repr

namespace Contract

/-- The inputs that a contract names. -/
def declaredInputs (c : Contract) : List String :=
  c.requiredInputs ++ c.optionalInputs

/-- The input whose value lists further inputs, when its name is not empty. -/
def dynamicName? (c : Contract) : Option String :=
  c.dynamicField.filter fun name => !name.isEmpty

/-- The first rule about inputs that the contract breaks. -/
def brokenRule? (c : Contract) : Option String :=
  let both := c.requiredInputs.filter (· ∈ c.optionalInputs)
  if both.isEmpty then
    match c.dynamicName? with
    | none => none
    | some name =>
      if name ∈ c.declaredInputs then none
      else some ("node type '" ++ c.type ++ "' dynamic_inputs_field '" ++ name
        ++ "' is not a declared input")
  else
    some ("node type '" ++ c.type ++ "' declares inputs as both required and optional: "
      ++ ", ".intercalate (Text.sortedSet both))

/-! ### Reading and writing -/

/-- The contract of a record.  The rules about inputs are checked when every field is right. -/
def read : Value → Checked Contract :=
  record "NodeTypeContract" fun v =>
    Checked.andThen
      (Contract.mk <$> required v (.same "type") filledText
        <*> required v (.same "category") (word Category.words)
        <*> withDefault v (.same "description") text ""
        <*> withDefault v (.same "required_inputs") (list text) []
        <*> withDefault v (.same "optional_inputs") (list text) []
        <*> withDefault v (.same "outputs") (list text) []
        <*> optionalField v (.same "dynamic_inputs_field") text)
      fun c =>
        match c.brokenRule? with
        | some rule => .fault (.broken rule)
        | none => .valid c

/-- The contract as a record. -/
def write (c : Contract) : Value :=
  Form.full.record
    [(.same "type", .str c.type), (.same "category", writeWord Category.words c.category),
      (.same "description", .str c.description),
      (.same "required_inputs", writeList Value.str c.requiredInputs),
      (.same "optional_inputs", writeList Value.str c.optionalInputs),
      (.same "outputs", writeList Value.str c.outputs),
      (.same "dynamic_inputs_field", writeOptional Value.str c.dynamicField)]

end Contract

end WorkflowCheck
