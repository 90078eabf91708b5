import WorkflowCheck.Settings.Basic
import WorkflowCheck.Settings.Dotenv
import WorkflowCheck.Text.Lines

/-!
# Where settings come from

Each setting is taken from the first source that has it: what the caller gives, the environment, and
an environment file.  Names in the environment carry a mark of the program, and their case does not
count.
-/

namespace WorkflowCheck.Settings

/-- The names of all settings. -/
def names : List String :=
  ["default_mode", "strict", "require_versions", "registry_file", "flow_dir", "log_level"]

/-- A text in lower case. -/
def lowered (s : String) : String :=
  String.ofList (s.toList.map Char.toLower)

/-- The variable of a setting. -/
def variableName (name : String) : String :=
  lowered "FLOWLINT_" ++ name

/-- Variables with their names in lower case; of two that differ in case only the later one counts. -/
def lowerNames {α : Type} (bound : Table String α) : Table String α :=
  bound.foldl (fun done (name, v) => done.put (lowered name) v) []

/-- The value that a setting is given by the first source that has it. -/
def given? (init : Value) (environment : Table String String)
    (file : Table String (Option String)) (name : String) : Option Value :=
  (init.get? name).orElse fun _ =>
    (((lowerNames environment).get? (variableName name)).map Value.str).orElse fun _ =>
      ((lowerNames file).get? (variableName name)).join.map Value.str

/-- The settings of all sources together. -/
def gather (init : Value) (environment : Table String String) (dotenv : String) :
    Decode.Checked Settings :=
  let text := String.ofList (Text.normalizeLines dotenv.toList)
  let file := Dotenv.read environment text
  read (.record (names.filterMap fun name =>
    (given? init environment file name).map (name, ·)))

end WorkflowCheck.Settings
