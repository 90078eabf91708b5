import WorkflowCheck.Rules.Options
import WorkflowCheck.Text.Digit

/-!
# Arguments

What the words of a command line ask for.  Options that hold for every command come first, then the
name of a command, and all that follows is for the command.  An option may be cut short as long as no
other option starts the same way, and its value may stand behind an equals sign or as the next word.
Behind two dashes every word stands for itself.
-/

namespace WorkflowCheck.Command

/-! ### Words -/

/-- What one word is among the options of a command. -/
inductive Word (α : Type) where
  /-- A word that stands for itself. -/
  | plain (text : String)
  /-- An option, perhaps with a value behind an equals sign. -/
  | option (o : α) (attached : Option String)
  /-- A word that looks like an option but is none, or could be several. -/
  | unclear
  deriving DecidableEq, Repr

/-- The text before the first equals sign and the text behind it, if there is one. -/
def splitAtEquals (w : String) : String × Option String :=
  match w.toList.dropWhile (· ≠ '=') with
  | '=' :: value => (String.ofList (w.toList.takeWhile (· ≠ '=')), some (String.ofList value))
  | _ => (w, none)

/-- Whether a word behind its dash is digits, perhaps with a point before or among them.  The word may
end with a line feed. -/
def isNegativeNumber (w : String) : Bool :=
  match w.toList with
  | '-' :: r =>
    let r := if r.getLast? = some '\n' then r.dropLast else r
    let whole := r.takeWhile Text.isDecimalDigit
    match r.dropWhile Text.isDecimalDigit with
    | [] => !whole.isEmpty
    | '.' :: places => !places.isEmpty && places.all Text.isDecimalDigit
    | _ => false
  | _ => false

/-- The options that a word with two dashes is the start of. -/
def startedBy {α : Type} (options : List (String × α)) (name : String) : List α :=
  if "--".isPrefixOf name then
    (options.filter fun (full, _) => name.isPrefixOf full).map (·.2)
  else []

/-- What a word is.  A word without a dash in front, a lone dash, and unless it starts an option a
negative number and a word with a space stand for themselves. -/
def Word.read {α : Type} (options : List (String × α)) (w : String) : Word α :=
  if !"-".isPrefixOf w || w = "-" then .plain w
  else
    let (name, attached) := splitAtEquals w
    match Table.get? name options with
    | some o => .option o attached
    | none =>
      match startedBy options name with
      | [o] => .option o attached
      | _ :: _ :: _ => .unclear
      | [] => if isNegativeNumber w || w.toList.contains ' ' then .plain w else .unclear

/-! ### What is asked for -/

/-- How a report is shown. -/
inductive Format where
  | text
  | json
  deriving DecidableEq, Repr, Inhabited

/-- The words that ask for a format. -/
def Format.words : List (String × Format) :=
  [("text", .text), ("json", .json)]

/-- A check of a flow.  What is not given is left to the settings. -/
structure CheckArguments where
  /-- A flow file, or the key of a flow. -/
  target : Option String := none
  mode : Option Mode := none
  strict : Bool := false
  requireVersions : Bool := false
  format : Format := .text
  deriving DecidableEq, Repr

/-- What a command does. -/
inductive Task where
  /-- Lints a flow. -/
  | check (target : String) (given : CheckArguments)
  /-- Lists the types of a registry, or shows the contract of one. -/
  | types (type : Option String)
  deriving DecidableEq, Repr

/-- A command and the options that hold for every command. -/
structure Request where
  registry : Option String
  logLevel : Option String
  task : Task
  deriving DecidableEq, Repr

/-! ### Checks -/

/-- The options of a check. -/
inductive CheckOption where
  | mode | strict | requireVersions | format
  deriving DecidableEq, Repr

/-- The spellings of the options of a check. -/
def CheckOption.words : List (String × CheckOption) :=
  [("--mode", .mode), ("--strict", .strict), ("--require-versions", .requireVersions),
    ("--format", .format)]

/-- The arguments with an option set that takes no value. -/
def CheckArguments.switch (a : CheckArguments) : CheckOption → Option CheckArguments
  | .strict => some { a with strict := true }
  | .requireVersions => some { a with requireVersions := true }
  | _ => none

/-- The arguments with an option set to a value, which must be one of its words. -/
def CheckArguments.set (a : CheckArguments) (value : String) : CheckOption → Option CheckArguments
  | .mode => (Table.get? value Mode.words).map fun m => { a with mode := some m }
  | .format => (Table.get? value Format.words).map fun f => { a with format := f }
  | _ => none

/-- The arguments of a check from its words.  Exactly one word is the target; two dashes may stand
right before or right behind it. -/
def CheckArguments.read (a : CheckArguments) : List String → Option CheckArguments
  | [] => some a
  | "--" :: r =>
    match a.target, r with
    | none, [w] => some { a with target := some w }
    | _, _ => none
  | w :: r =>
    match Word.read CheckOption.words w with
    | .unclear => none
    | .plain target =>
      if a.target.isSome then none
      else if r = ["--"] then some { a with target := some target }
      else CheckArguments.read { a with target := some target } r
    | .option o (some value) => (a.set value o).bind fun a => a.read r
    | .option o none =>
      match a.switch o, r with
      | some a, r => a.read r
      | none, [] => none
      | none, v :: r =>
        match Word.read CheckOption.words v with
        | .plain value => (a.set value o).bind fun a => a.read r
        | _ => none

/-! ### Types -/

/-- The type that is asked for, if any.  Two dashes may stand before or behind it. -/
def readType : List String → Option (Option String)
  | [] | ["--"] => some none
  | ["--", w] => some (some w)
  | [w] | [w, "--"] =>
    match Word.read ([] : List (String × Empty)) w with
    | .plain type => some (some type)
    | _ => none
  | _ => none

/-! ### Requests -/

/-- The options that hold for every command. -/
inductive SharedOption where
  | registry | logLevel
  deriving DecidableEq, Repr

/-- The spellings of the options that every command takes. -/
def SharedOption.words : List (String × SharedOption) :=
  [("--registry", .registry), ("--log-level", .logLevel)]

/-- The options that hold for every command, as they are given. -/
structure Shared where
  registry : Option String := none
  logLevel : Option String := none

/-- The shared options with one of them set; a later value replaces an earlier one. -/
def Shared.set (s : Shared) (value : String) : SharedOption → Shared
  | .registry => { s with registry := some value }
  | .logLevel => { s with logLevel := some value }

/-- The task of a command with its words. -/
def readTask (name : String) (words : List String) : Option Task :=
  match name with
  | "check" => do
    let given ← CheckArguments.read {} words
    return .check (← given.target) given
  | "types" => (readType words).map .types
  | _ => none

/-- The request of some words behind options that are read already. -/
def Shared.read (s : Shared) : List String → Option Request
  | [] => none
  | w :: r =>
    match Word.read SharedOption.words w with
    | .unclear => none
    | .plain name => (readTask name r).map fun task => ⟨s.registry, s.logLevel, task⟩
    | .option o (some value) => (s.set value o).read r
    | .option o none =>
      match r with
      | [] => none
      | v :: r =>
        match Word.read SharedOption.words v with
        | .plain value => (s.set value o).read r
        | _ => none

/-- The request of the words of a command line; none if they are not understood. -/
def Request.ofWords (words : List String) : Option Request :=
  Shared.read {} words

end WorkflowCheck.Command
