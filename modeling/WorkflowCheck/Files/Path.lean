import WorkflowCheck.Text.Quoted
import WorkflowCheck.Value.Basic

/-!
# Paths

A path is a list of names behind a root or behind the working directory.  Reading one drops empty
names and single dots; double dots stay until the path is resolved.
-/

namespace WorkflowCheck

/-- A path to a file or a directory. -/
structure Path where
  absolute : Bool
  parts : List String
  deriving DecidableEq, Repr

namespace Path

/-- The names of a text between slashes. -/
def namesOf : List Char → List (List Char)
  | [] => [[]]
  | '/' :: r => [] :: namesOf r
  | c :: r =>
    match namesOf r with
    | [] => [[c]]
    | name :: names => (c :: name) :: names

/-- The path that a text names. -/
def ofString (s : String) : Path where
  absolute := s.toList.head? == some '/'
  parts := ((namesOf s.toList).map String.ofList).filter fun name => name ≠ "" ∧ name ≠ "."

/-- The path as a text. -/
def toString (p : Path) : String :=
  let names := "/".intercalate p.parts
  if p.absolute then "/" ++ names
  else if p.parts.isEmpty then "."
  else names

/-- A path as seen from another one. -/
def join (base p : Path) : Path :=
  if p.absolute then p else { base with parts := base.parts ++ p.parts }

/-- Names behind others, with each double dot taking back the name before it. -/
def withoutDots (parts : List String) : List String :=
  (parts.foldl (fun done name => if name = ".." then done.tail else name :: done) []).reverse

/-- The path from the root that a path stands for in a working directory. -/
def resolve (workingDirectory p : Path) : Path :=
  ⟨true, withoutDots (workingDirectory.join p).parts⟩

/-- The last name. -/
def name (p : Path) : String :=
  p.parts.getLast?.getD ""

/-- The last point of a name and what follows it; empty when the point is the first or the last
character. -/
def suffix (p : Path) : String :=
  let reversed := p.name.toList.reverse
  let ending := (reversed.takeWhile (· ≠ '.')).reverse
  let before := (reversed.dropWhile (· ≠ '.')).tail
  if ending.isEmpty || before.isEmpty then "" else String.ofList ('.' :: ending)

/-- The path with a text put behind it as a further path. -/
def child (p : Path) (s : String) : Path :=
  p.join (ofString s)

end Path

/-! ### What is no path -/

/-- Why a text or a path cannot lead to a file. -/
inductive PathFault where
  /-- A value of that kind stands in the place of a text. -/
  | notText (kind : String)
  /-- A null character stands in a text. -/
  | nullCharacter
  /-- A name, or the path as a whole, is too long. -/
  | tooLong (path : Path)
  deriving DecidableEq, Repr

/-- The text of a fault. -/
def PathFault.message : PathFault → String
  | .notText kind => "expected str, bytes or os.PathLike object, not " ++ kind
  | .nullCharacter => "embedded null byte"
  | .tooLong path => "[Errno 36] File name too long: " ++ Text.quoted path.toString

/-- The most bytes of a name. -/
def maxNameBytes : Nat :=
  255

/-- The most bytes of a path. -/
def maxPathBytes : Nat :=
  4095

namespace Path

/-- The path from the root that a text stands for in a working directory. -/
def locate (workingDirectory : Path) (s : String) : Except PathFault Path :=
  if s.toList.contains '\x00' then .error .nullCharacter
  else .ok (resolve workingDirectory (ofString s))

/-- The name of the kind of a value. -/
def kindOf (v : Value) : String :=
  match v.opened with
  | .null => "NoneType"
  | .bool _ => "bool"
  | .int _ => "int"
  | .float _ => "float"
  | .str _ => "str"
  | .arr _ => "list"
  | .obj _ => "dict"
  | .moment (.day _) => "datetime.date"
  | .moment _ => "datetime.datetime"
  | .bytes _ => "bytes"
  | .set _ => "set"
  | _ => "tuple"

/-- The path from the root that a value stands for in a working directory. -/
def locateValue (workingDirectory : Path) (v : Value) : Except PathFault Path :=
  match v.text? with
  | some s => locate workingDirectory s
  | none => .error (.notText (kindOf v))

end Path

end WorkflowCheck
