import WorkflowCheck.Command.Run

/-!
# The command line

Reads the settings and the files that a command may need, runs the command on them, and shows what it
ends with: its output, and on the standard error stream the records that it logged.
-/

namespace WorkflowCheck.Command

/-- How the command is used. -/
def usage : String :=
  "usage: workflowcheck [--registry FILE] [--log-level LEVEL] check PATH [--mode flow|node] [--strict]"
    ++ " [--require-versions] [--format text|json]\n"
    ++ "       workflowcheck [--registry FILE] [--log-level LEVEL] types [TYPE]"

/-- The tree with what stands at a path from the root. -/
def look (t : FileTree) (parts : List String) : IO FileTree := do
  try
    let bytes ← IO.FS.readBinFile (Path.toString ⟨true, parts⟩)
    return { t with files := (parts, bytes) :: t.files }
  catch
    | .inappropriateType _ 21 _ => return { t with directories := parts :: t.directories }
    | _ => return t

/-- The tree with what stands at a path and on the way to it. -/
def lookAlong (t : FileTree) (p : Path) : IO FileTree :=
  (List.range (p.parts.length + 1)).foldlM
    (fun t k => look t (Path.withoutDots (p.parts.take k))) t

/-- The variables that the settings may be taken from. -/
def readVariables : IO (Table String String) := do
  let upper := Settings.names.map fun name => (Settings.variableName name).toUpper
  let lower := Settings.names.map Settings.variableName
  (upper ++ lower).filterMapM fun name => return (← IO.getEnv name).map (name, ·)

/-- The settings of the environment and of an environment file in the working directory. -/
def readSettings : IO (Decode.Checked Settings) := do
  let file ← try IO.FS.readFile ".env" catch _ => pure ""
  return Settings.gather (.record []) (← readVariables) file

/-- Runs the command of the words of a command line, and gives its exit status. -/
def execute (words : List String) : IO UInt32 := do
  match ← readSettings with
  | .faulty problems =>
    for p in problems do IO.eprintln p.fault.message
    return 1
  | .valid settings =>
    let settings := settings.toRaw
    match Request.ofWords words with
    | none =>
      IO.eprintln usage
      return 2
    | some request =>
      let here := Path.ofString (← IO.currentDir).toString
      let tree ← (request.paths settings { workingDirectory := here }).foldlM lookAlong
        { workingDirectory := here }
      match run settings tree words with
      | .error e =>
        IO.eprintln e.message
        return 1
      | .ok outcome =>
        for r in outcome.log do IO.eprintln (r.level.word ++ ": " ++ r.message)
        IO.print outcome.output
        return UInt32.ofNat outcome.status

end WorkflowCheck.Command

/-- The program. -/
def main (words : List String) : IO UInt32 :=
  WorkflowCheck.Command.execute words
