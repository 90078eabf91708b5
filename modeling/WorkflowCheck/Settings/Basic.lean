import WorkflowCheck.Issue
import WorkflowCheck.Files.Path
import WorkflowCheck.Rules.Options

/-!
# Settings

What holds for a run unless its caller says otherwise.
-/

namespace WorkflowCheck

open Decode

/-- The settings of a run. -/
structure Settings where
  defaultMode : String := "flow"
  strict : Bool := false
  requireVersions : Bool := false
  registryFile : Option String := none
  flowDirectory : String := "./flows"
  logLevel : String := "INFO"
  deriving DecidableEq, Repr

namespace Settings

/-- One of the words that are written out. -/
def literal (words : List String) : Value → Checked String
  | .str s => if s ∈ words then .valid s else .fault (.notLiteral words)
  | _ => .fault (.notLiteral words)

/-- The settings of a record of those that are given. -/
def read (v : Value) : Checked Settings :=
  let none : Settings := {}
  Settings.mk <$> withDefault v (.same "default_mode") (literal ["flow", "node"]) none.defaultMode
    <*> withDefault v (.same "strict") truth none.strict
    <*> withDefault v (.same "require_versions") truth none.requireVersions
    <*> withDefault v (.same "registry_file") (optional text) none.registryFile
    <*> withDefault v (.same "flow_dir") text none.flowDirectory
    <*> withDefault v (.same "log_level") text none.logLevel

/-- The registry file; an empty name is none. -/
def registryName? (s : Settings) : Option String :=
  s.registryFile.filter fun name => !name.isEmpty

end Settings

/-! ### Raw settings -/

/-- Settings that have not been checked: each may be a value of any kind. -/
structure RawSettings where
  defaultMode : Value
  strict : Value
  requireVersions : Value
  registryFile : Value
  flowDirectory : Value
  logLevel : Value
  deriving Repr

/-- Settings as raw ones. -/
def Settings.toRaw (s : Settings) : RawSettings where
  defaultMode := .str s.defaultMode
  strict := .bool s.strict
  requireVersions := .bool s.requireVersions
  registryFile := writeOptional .str s.registryFile
  flowDirectory := .str s.flowDirectory
  logLevel := .str s.logLevel

/-- Why settings do not describe the options of a run. -/
inductive OptionsError where
  | unknownMode (e : UnknownWord)
  | faulty (problems : List Problem)
  deriving DecidableEq, Repr

/-- The text of an error; problems have texts of their own. -/
def OptionsError.message : OptionsError → String
  | .unknownMode e => e.message
  | .faulty ps => "; ".intercalate (ps.map (·.fault.message))

namespace RawSettings

/-- The settings with those of a record in the places of some. -/
def replaced (s : RawSettings) (v : Value) : RawSettings where
  defaultMode := (v.get? "default_mode").getD s.defaultMode
  strict := (v.get? "strict").getD s.strict
  requireVersions := (v.get? "require_versions").getD s.requireVersions
  registryFile := (v.get? "registry_file").getD s.registryFile
  flowDirectory := (v.get? "flow_dir").getD s.flowDirectory
  logLevel := (v.get? "log_level").getD s.logLevel

/-- What names the registry file; a void value names none. -/
def registryName? (s : RawSettings) : Option Value :=
  if s.registryFile.isVoid then none else some s.registryFile

/-- The switches of a run of a mode, which must both be truth values. -/
def switches (mode : Mode) (strict requireVersions : Value) : Except OptionsError Options :=
  let options := Options.mk mode <$> (truth strict).under (.key "strict")
    <*> (truth requireVersions).under (.key "require_versions")
  match options with
  | .valid o => .ok o
  | .faulty ps => .error (.faulty ps)

/-- The mode that a value names. -/
def modeOf (v : Value) : Except OptionsError Mode :=
  (meaning "LintMode" Mode.words v).mapError .unknownMode

/-- The options of a run that are set: the mode is looked at first. -/
def options (s : RawSettings) : Except OptionsError Options := do
  switches (← modeOf s.defaultMode) s.strict s.requireVersions

end RawSettings

end WorkflowCheck
