/-!
# Problems of a value

What can be wrong with a value that is read as a record of a known form: a fault, and the path of
keys and places that leads to it from the whole value.
-/

namespace WorkflowCheck.Decode

/-- One step of a path into a value. -/
inductive Step where
  | key (name : String)
  | place (index : Nat)
  deriving DecidableEq, Repr

/-- What is wrong at a place. -/
inductive Fault where
  /-- A required field is absent. -/
  | missing
  /-- A record of that name is no object. -/
  | notRecord (name : String)
  /-- A table is no object. -/
  | notTable
  | notList
  | notText
  /-- Bytes are no text, or a text holds a lone surrogate where none may be. -/
  | notUnicode
  /-- A text that must not be empty is. -/
  | emptyText
  | notNumber
  /-- A text does not read as a number. -/
  | unreadableNumber
  | notTruth
  /-- A text or an integer does not read as a truth value. -/
  | unreadableTruth
  /-- None of the words of a vocabulary. -/
  | notWord (words : List String)
  /-- None of the words that are written out in a type. -/
  | notLiteral (words : List String)
  /-- A rule about the record as a whole is broken. -/
  | broken (rule : String)
  deriving DecidableEq, Repr

/-- A fault and the path to it. -/
structure Problem where
  path : List Step
  fault : Fault
  deriving DecidableEq, Repr

/-- Words between single quotes, the last two joined by "or" and the others by commas. -/
def listWords (words : List String) : String :=
  let quotedWords := words.map fun w => "'" ++ w ++ "'"
  match quotedWords.reverse with
  | [] => ""
  | [w] => w
  | last :: front => ", ".intercalate front.reverse ++ " or " ++ last

namespace Fault

/-- The name of the kind of a fault. -/
def kind : Fault → String
  | .missing => "missing"
  | .notRecord _ => "model_type"
  | .notTable => "dict_type"
  | .notList => "list_type"
  | .notText => "string_type"
  | .notUnicode => "string_unicode"
  | .emptyText => "string_too_short"
  | .notNumber => "float_type"
  | .unreadableNumber => "float_parsing"
  | .notTruth => "bool_type"
  | .unreadableTruth => "bool_parsing"
  | .notWord _ => "enum"
  | .notLiteral _ => "literal_error"
  | .broken _ => "value_error"

/-- The text of a fault. -/
def message : Fault → String
  | .missing => "Field required"
  | .notRecord name => "Input should be a valid dictionary or instance of " ++ name
  | .notTable => "Input should be a valid dictionary"
  | .notList => "Input should be a valid list"
  | .notText => "Input should be a valid string"
  | .notUnicode =>
    "Input should be a valid string, unable to parse raw data as a unicode string"
  | .emptyText => "String should have at least 1 character"
  | .notNumber => "Input should be a valid number"
  | .unreadableNumber => "Input should be a valid number, unable to parse string as a number"
  | .notTruth => "Input should be a valid boolean"
  | .unreadableTruth => "Input should be a valid boolean, unable to interpret input"
  | .notWord words => "Input should be " ++ listWords words
  | .notLiteral words => "Input should be " ++ listWords words
  | .broken rule => "Value error, " ++ rule

end Fault

/-- The problem seen from one step further out. -/
def Problem.under (step : Step) (p : Problem) : Problem :=
  { p with path := step :: p.path }

end WorkflowCheck.Decode
