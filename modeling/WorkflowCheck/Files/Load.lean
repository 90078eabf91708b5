import WorkflowCheck.Files.Tree
import WorkflowCheck.Json.Reader
import WorkflowCheck.Registry.Basic
import WorkflowCheck.Text.Quoted
import WorkflowCheck.Yaml.Document

/-!
# Loading flows and registries

A flow is loaded from a path, or by a key from the first of the files that may have it.  A file whose
name ends in `.json` is read as JSON, every other one as YAML.  A registry is always YAML.
-/

namespace WorkflowCheck

/-- What of a file could not be read. -/
inductive ParseCause where
  | json
  | yaml
  | utf8
  deriving DecidableEq, Repr

/-- What is wrong with a file whose text could be read, beside its being malformed. -/
inductive ContentFault where
  | json (f : Json.Fault)
  | yaml (f : Yaml.Fault)
  deriving DecidableEq, Repr

/-- The text of a fault. -/
def ContentFault.message : ContentFault → String
  | .json f => f.message
  | .yaml f => f.message

/-! ### Flows -/

/-- The endings of flow files, in the order in which they are tried. -/
def flowEndings : List String :=
  [".yaml", ".yml", ".json"]

/-- The files that a key may stand for in a directory, in the order in which they are tried. -/
def keyPaths (directory : Path) (key : String) : List Path :=
  flowEndings.map fun ending => directory.child (key ++ ending)

/-- Why a flow was not loaded. -/
inductive FlowError where
  | noFile (path : Path)
  | noKey (key : String) (home : Path)
  | directory (path : Path)
  | place (f : PathFault)
  | unreadable (path : Path) (cause : ParseCause)
  | content (f : ContentFault)
  deriving DecidableEq, Repr

/-- The text of the error of opening a directory. -/
def directoryMessage (path : Path) : String :=
  "[Errno 21] Is a directory: " ++ Text.quoted path.toString

/-- The text of an error; that of a parser's cause is left out. -/
def FlowError.message : FlowError → String
  | .noFile path => "Flow file not found at " ++ path.toString
  | .noKey key home =>
    "Flow definition not found for '" ++ key ++ "' in " ++ home.toString
  | .directory path => directoryMessage path
  | .place f => f.message
  | .unreadable path _ => "could not parse flow file " ++ path.toString
  | .content f => f.message

/-- Whether an error is one of those that a missing or malformed file comes to. -/
def FlowError.isExpected : FlowError → Bool
  | .noFile _ | .noKey _ _ | .unreadable _ _ => true
  | _ => false

/-! ### Reading texts -/

/-- The value of a YAML text, as far as it is known. -/
def readYaml (file : Text.Decoded) : Except Yaml.Fault Value :=
  if file.whole then Yaml.read file.text none
  else if file.text.isEmpty then .error .unread
  else Yaml.read file.text (some .unread)

/-- The value of a file's text, which is JSON or YAML by the ending of its name. -/
def readFlow (path : Path) (file : Text.Decoded) : Except FlowError Value :=
  if path.suffix = ".json" then
    if file.whole then
      match Json.read file.text with
      | .ok v => .ok v
      | .error .malformed => .error (.unreadable path .json)
      | .error f => .error (.content (.json f))
    else .error (.unreadable path .utf8)
  else
    match readYaml file with
    | .ok v => .ok v
    | .error .malformed => .error (.unreadable path .yaml)
    | .error .unread => .error (.unreadable path .utf8)
    | .error f => .error (.content (.yaml f))

namespace FileTree

/-- The value of a flow file at a resolved path. -/
def loadFlow (t : FileTree) (path : Path) : Except FlowError Value :=
  match t.read path with
  | .error .missing => .error (.noFile path)
  | .error .directory => .error (.directory path)
  | .error (.place f) => .error (.place f)
  | .ok file => readFlow path file

/-- The value of the flow file that a text names. -/
def loadFile (t : FileTree) (name : String) : Except FlowError Value := do
  t.loadFlow (← (t.locate name).mapError .place)

/-- The first of some paths at which there is something. -/
def firstOf (t : FileTree) : List Path → Except PathFault (Option Path)
  | [] => .ok none
  | p :: ps => do
    if ← t.exists? p then return some p
    t.firstOf ps

/-- The first file of a key in a directory. -/
def findFlow (t : FileTree) (directory : Path) (key : String) : Except FlowError Path := do
  match ← (t.firstOf (keyPaths directory key)).mapError .place with
  | some path => return path
  | none => throw (.noKey key directory)

/-- The value of the flow of a key in a directory. -/
def loadKey (t : FileTree) (directory : Path) (key : String) : Except FlowError Value := do
  let path ← t.findFlow directory key
  t.loadFlow (Path.resolve t.workingDirectory path)

end FileTree

/-! ### Registries -/

/-- Why a registry was not loaded. -/
inductive RegistryFileError where
  | noFile (path : Path)
  | directory (path : Path)
  | place (f : PathFault)
  | unreadable (path : Path) (cause : ParseCause)
  | content (f : Yaml.Fault)
  | invalid (e : RegistryError)
  deriving DecidableEq, Repr

/-- The text of an error; that of a parser's cause is left out. -/
def RegistryFileError.message : RegistryFileError → String
  | .noFile path => "Node type registry not found at " ++ path.toString
  | .directory path => directoryMessage path
  | .place f => f.message
  | .unreadable path _ => "invalid registry file " ++ path.toString
  | .content f => f.message
  | .invalid e => e.message

/-- Whether an error is one of those that a missing or malformed file comes to. -/
def RegistryFileError.isExpected : RegistryFileError → Bool
  | .noFile _ | .unreadable _ _ | .invalid _ => true
  | _ => false

namespace FileTree

/-- The registry of a file at a resolved path.  An empty document counts as an empty object. -/
def loadRegistry (t : FileTree) (path : Path) : Except RegistryFileError Registry :=
  match t.read path with
  | .error .missing => .error (.noFile path)
  | .error .directory => .error (.directory path)
  | .error (.place f) => .error (.place f)
  | .ok file =>
    match readYaml file with
    | .error .malformed => .error (.unreadable path .yaml)
    | .error .unread => .error (.unreadable path .utf8)
    | .error f => .error (.content f)
    | .ok v => (Registry.ofPayload (if v.isVoid then .obj [] else v)).mapError .invalid

end FileTree

end WorkflowCheck
