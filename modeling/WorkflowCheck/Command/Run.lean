import WorkflowCheck.Command.Arguments
import WorkflowCheck.Command.Log
import WorkflowCheck.Json.Printer
import WorkflowCheck.Lint
import WorkflowCheck.Registry.Builtin
import WorkflowCheck.Settings.Sources

/-!
# Running a command

A command ends with an exit status, its output and the records that it logged.  The status is 0 when
all is well, 1 when a flow has errors or a type is not known, and 2 when a file could not be loaded or
the words of the command line were not understood.
-/

namespace WorkflowCheck.Command

/-- What a command ends with. -/
structure Outcome where
  status : Nat
  output : String := ""
  log : List Record := []
  deriving DecidableEq, Repr

/-- Why a command does not end with a status. -/
inductive Failure where
  | level (f : LevelFault)
  /-- A flow cannot be read, although it is no missing or malformed file. -/
  | flow (e : FlowError)
  /-- A registry cannot be read, although it is no missing or malformed file. -/
  | registry (e : RegistryFileError)
  | options (e : OptionsError)
  | run (e : RunError)
  deriving DecidableEq, Repr

/-- The text of a failure. -/
def Failure.message : Failure → String
  | .level f => f.message
  | .flow e => e.message
  | .registry e => e.message
  | .options e => e.message
  | .run e => e.message

/-- Lines of text, each with its end. -/
def lines (ls : List String) : String :=
  String.join (ls.map (· ++ "\n"))

/-! ### Registries -/

/-- What names the registry file of a request, or else that of the settings; an empty name names
none. -/
def registryName? (s : RawSettings) (r : Request) : Option Value :=
  ((r.registry.filter fun name => !name.isEmpty).map Value.str).orElse fun _ => s.registryName?

/-- The registry of a file of a name, or the built-in one, and what is logged about it. -/
def chooseRegistry (t : FileTree) : Option Value → Except RegistryFileError (Registry × List Record)
  | none => .ok (.builtin, [])
  | some name => do
    let path ← (Path.locateValue t.workingDirectory name).mapError .place
    let registry ← t.loadRegistry path
    return (registry, [.loadedRegistry registry.size path])

/-! ### Checks -/

/-- Whether a target is the path of a flow file, and no key. -/
def isFlowPath (target : String) : Bool :=
  flowEndings.contains (Path.ofString target).suffix

/-- The value of the flow that a target names.  The directory of the flows must be one in any case. -/
def loadTarget (s : RawSettings) (t : FileTree) (target : String) : Except FlowError Value := do
  let directory ← (Path.locateValue t.workingDirectory s.flowDirectory).mapError .place
  if isFlowPath target then t.loadFile target else t.loadKey directory target

/-- The paths that a task may read from. -/
def Task.paths (s : RawSettings) (t : FileTree) : Task → List Path
  | .check target _ =>
    if isFlowPath target then [t.workingDirectory.child target]
    else
      match Path.locateValue t.workingDirectory s.flowDirectory with
      | .ok directory => keyPaths directory target
      | .error _ => []
  | .types _ => []

/-- The options of a check: what is given goes before what is set. -/
def CheckArguments.options (s : RawSettings) (a : CheckArguments) : Except OptionsError Options := do
  let mode ← match a.mode with
    | some mode => pure mode
    | none => RawSettings.modeOf s.defaultMode
  RawSettings.switches mode
    (if a.strict then .bool true else s.strict)
    (if a.requireVersions then .bool true else s.requireVersions)

/-- A report as it is shown. -/
def showReport (report : Report) : Format → String
  | .json => lines [Json.indented (.arr (report.map Issue.toRecord))]
  | .text => lines (report.map Issue.text ++ [toString report.length ++ " issue(s)"])

/-- What is logged about the lint of a flow. -/
def lintRecords (o : Options) (report : Report) : RawFlow → List Record
  | .malformed _ => []
  | .snapshot s =>
    [.linted o.mode s.nodes.length s.edges.length report.errors.length report.warnings.length]

/-- A check with a registry. -/
def check (s : RawSettings) (t : FileTree) (registry : Registry) (target : String)
    (a : CheckArguments) : Except Failure Outcome :=
  match loadTarget s t target with
  | .error e =>
    if e.isExpected then .ok { status := 2, log := [.unloadedFlow e] } else .error (.flow e)
  | .ok flow =>
    match a.options s with
    | .error e => .error (.options e)
    | .ok options =>
      match lint registry options flow with
      | .error e => .error (.run e)
      | .ok report =>
        .ok {
          status := if report.hasErrors then 1 else 0
          output := showReport report a.format
          log := lintRecords options report (.ofValue flow) }

/-! ### Types -/

/-- The types of a registry, or the contract of one of them. -/
def showTypes (registry : Registry) : Option String → Outcome
  | none => { status := 0, output := lines registry.types }
  | some type =>
    match registry.get? type with
    | some contract => { status := 0, output := lines [Json.indented contract.write] }
    | none => { status := 1, log := [.unknownType type] }

/-! ### Requests -/

/-- A task with a registry. -/
def Task.run (s : RawSettings) (t : FileTree) (registry : Registry) : Task → Except Failure Outcome
  | .check target a => Command.check s t registry target a
  | .types type => .ok (showTypes registry type)

/-- A request, with every record that is logged. -/
def Request.run (s : RawSettings) (t : FileTree) (r : Request) : Except Failure Outcome :=
  match chooseRegistry t (registryName? s r) with
  | .error e =>
    if e.isExpected then .ok { status := 2, log := [.unloadedRegistry e] } else .error (.registry e)
  | .ok (registry, records) =>
    (r.task.run s t registry).map fun outcome => { outcome with log := records ++ outcome.log }

/-- The paths that a request may read from. -/
def Request.paths (s : RawSettings) (t : FileTree) (r : Request) : List Path :=
  ((registryName? s r).bind Value.text?).toList.map t.workingDirectory.child ++ r.task.paths s t

/-- The rank of the records that a request keeps.  A level that is no text counts as an unknown name. -/
def Request.rank (s : RawSettings) (r : Request) : Except LevelFault Nat :=
  rankOf (r.logLevel.getD (s.logLevel.text?.getD ""))

/-- The command of the words of a command line. -/
def run (s : RawSettings) (t : FileTree) (words : List String) : Except Failure Outcome :=
  match Request.ofWords words with
  | none => .ok { status := 2 }
  | some r =>
    match r.rank s with
    | .error f => .error (.level f)
    | .ok rank =>
      (r.run s t).map fun outcome =>
        { outcome with log := outcome.log.filter (Record.isKept rank) }

end WorkflowCheck.Command
