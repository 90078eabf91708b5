import WorkflowCheck.Files.Path
import WorkflowCheck.Text.Portion

/-!
# File trees

The files that a run can see, by their paths from the root, and the directory that it works in.
-/

namespace WorkflowCheck

/-- Files and the working directory. -/
structure FileTree where
  workingDirectory : Path
  /-- The bytes of each file under the names of its path from the root. -/
  files : List (List String × ByteArray) := []
  /-- Directories that need not hold any of the files. -/
  directories : List (List String) := []

/-- Why there is no text to read. -/
inductive ReadError where
  | missing
  | directory
  | place (f : PathFault)
  deriving DecidableEq, Repr

namespace FileTree

/-- The bytes of a file. -/
def bytes? (t : FileTree) (parts : List String) : Option ByteArray :=
  (t.files.find? fun (name, _) => name = parts).map (·.2)

/-- Whether names lead to a directory: the working directory, one around it or around a file, or one
that is listed. -/
def isDirectory (t : FileTree) (parts : List String) : Bool :=
  parts.isPrefixOf t.workingDirectory.parts
    || t.directories.contains parts
    || t.files.any fun (name, _) => parts.isPrefixOf name && parts != name

/-- Where names lead from a directory.  Each name but the last must be that of a directory, and a
double dot leads to the directory around; a name that is too long leads nowhere, and none says so. -/
def walk? (t : FileTree) : List String → List String → Option (Option (List String))
  | place, [] => some (if t.isDirectory place || (t.bytes? place).isSome then some place else none)
  | place, name :: names =>
    if !t.isDirectory place then some none
    else if maxNameBytes < name.utf8ByteSize then none
    else if name = ".." then t.walk? place.dropLast names
    else t.walk? (place ++ [name]) names

/-- Whether there is something at a path from the root, followed name by name.  There is nothing at a
path with a null character. -/
def exists? (t : FileTree) (p : Path) : Except PathFault Bool :=
  if p.toString.toList.contains '\x00' then .ok false
  else if maxPathBytes < p.toString.utf8ByteSize then .error (.tooLong p)
  else
    match t.walk? [] p.parts with
    | some place => .ok place.isSome
    | none => .error (.tooLong p)

/-- The text of the file at a resolved path. -/
def read (t : FileTree) (p : Path) : Except ReadError Text.Decoded :=
  match t.exists? p with
  | .error f => .error (.place f)
  | .ok false => .error .missing
  | .ok true =>
    match t.bytes? p.parts with
    | some bytes => .ok (.ofBytes bytes)
    | none => .error .directory

/-- The path from the root that a text names. -/
def locate (t : FileTree) (s : String) : Except PathFault Path :=
  Path.locate t.workingDirectory s

end FileTree

end WorkflowCheck
