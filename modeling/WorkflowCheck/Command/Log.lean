import WorkflowCheck.Files.Load
import WorkflowCheck.Rules.Options

/-!
# Log records

What a command tells beside its output.  Each record has a level, and only those at or above the
level of the run are kept.
-/

namespace WorkflowCheck.Command

/-! ### Levels -/

/-- The levels of records. -/
inductive Level where
  | debug
  | info
  | error
  deriving DecidableEq, Repr

/-- The name that a level is shown by. -/
def Level.word : Level → String
  | .debug => "DEBUG"
  | .info => "INFO"
  | .error => "ERROR"

/-- How grave a level is. -/
def Level.rank : Level → Nat
  | .debug => 10
  | .info => 20
  | .error => 40

/-- The ranks that a level may be asked for by. -/
def rankNames : List (String × Nat) :=
  [("CRITICAL", 50), ("FATAL", 50), ("ERROR", 40), ("WARNING", 30), ("WARN", 30), ("INFO", 20),
    ("DEBUG", 10), ("NOTSET", 0)]

/-- The capital of a letter that has an ASCII one, as the dotless i and the long s do. -/
def asciiCapital (c : Char) : Char :=
  if c = 'ı' then 'I' else if c = 'ſ' then 'S' else c.toUpper

/-- A name in capitals. -/
def inCapitals (name : String) : String :=
  String.ofList (name.toList.map asciiCapital)

/-- A name that stands for something else than a rank. -/
inductive LevelFault where
  /-- The format of records as a text. -/
  | format
  /-- The styles of formats. -/
  | styles
  deriving DecidableEq, Repr

/-- The text of a fault. -/
def LevelFault.message : LevelFault → String
  | .format => "Unknown level: '%(levelname)s:%(name)s:%(message)s'"
  | .styles =>
    "Level not an integer or a valid string: \x7b'%': (<class 'logging.PercentStyle'>, "
      ++ "'%(levelname)s:%(name)s:%(message)s'), '\x7b': (<class 'logging.StrFormatStyle'>, "
      ++ "'\x7blevelname\x7d:\x7bname\x7d:\x7bmessage\x7d'), '$': "
      ++ "(<class 'logging.StringTemplateStyle'>, "
      ++ "'$\x7blevelname\x7d:$\x7bname\x7d:$\x7bmessage\x7d')\x7d"

/-- The names that stand for something else than a rank. -/
def levelFaults : List (String × LevelFault) :=
  [("BASIC_FORMAT", .format), ("_STYLES", .styles)]

/-- The rank that a name asks for, in any case; that of information for an unknown name. -/
def rankOf (name : String) : Except LevelFault Nat :=
  let capitals := inCapitals name
  match levelFaults.lookup capitals with
  | some f => .error f
  | none => .ok ((rankNames.lookup capitals).getD Level.info.rank)

/-! ### Records -/

/-- What is told. -/
inductive Record where
  | loadedRegistry (size : Nat) (path : Path)
  | linted (mode : Mode) (nodes edges errors warnings : Nat)
  | unknownType (type : String)
  | unloadedFlow (e : FlowError)
  | unloadedRegistry (e : RegistryFileError)
  deriving DecidableEq, Repr

namespace Record

/-- The level of a record: all that goes wrong is an error. -/
def level : Record → Level
  | .loadedRegistry .. => .info
  | .linted .. => .debug
  | _ => .error

/-- The text of a record. -/
def message : Record → String
  | .loadedRegistry size path =>
    "loaded " ++ toString size ++ " node type contracts from " ++ path.toString
  | .linted mode nodes edges errors warnings =>
    "linted flow in " ++ mode.word ++ " mode: " ++ toString nodes ++ " nodes, " ++ toString edges
      ++ " edges, " ++ toString errors ++ " errors, " ++ toString warnings ++ " warnings"
  | .unknownType type => "unknown node type: " ++ type
  | .unloadedFlow e => e.message
  | .unloadedRegistry e => e.message

/-- Whether a run of that rank keeps the record. -/
def isKept (rank : Nat) (r : Record) : Bool :=
  rank ≤ r.level.rank

end Record

end WorkflowCheck.Command
