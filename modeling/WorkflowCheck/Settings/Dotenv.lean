import WorkflowCheck.Table
import WorkflowCheck.Text.Blank

/-!
# Environment files

A file of bindings, one on a line: a name, perhaps behind the word `export`, and behind an equals sign
a value, which may stand between quotes and then run over lines.  A number sign starts a comment.
Lines that are none of this are passed over.  A value may name others, which are put in.
-/

namespace WorkflowCheck.Dotenv

/-! ### Lexical parts -/

/-- Whether a character ends a line. -/
def isLineEnd (c : Char) : Bool :=
  c == '\n' || c == '\r'

/-- Whether a character is a blank within a line. -/
def isInnerBlank (c : Char) : Bool :=
  Text.isBlank c && !isLineEnd c

/-- The text behind blanks within its first line. -/
def dropInner (cs : List Char) : List Char :=
  cs.dropWhile isInnerBlank

/-- The text behind its first line. -/
def afterLine (cs : List Char) : List Char :=
  (cs.dropWhile (!isLineEnd ·)).tail

/-- The text behind the word `export` and a blank, if it starts with them. -/
def dropExport (cs : List Char) : List Char :=
  match cs with
  | 'e' :: 'x' :: 'p' :: 'o' :: 'r' :: 't' :: r => if r.head?.any isInnerBlank then dropInner r else cs
  | _ => cs

/-- The name at the start of a text, and what follows it: none before a comment. -/
def name? (cs : List Char) : Option (Option String × List Char) :=
  match cs with
  | '#' :: _ => some (none, cs)
  | '\'' :: r =>
    match r.takeWhile (· ≠ '\''), r.dropWhile (· ≠ '\'') with
    | c :: name, '\'' :: rest => some (some (String.ofList (c :: name)), rest)
    | _, _ => none
  | _ =>
    let isNameChar (c : Char) : Bool := c != '=' && c != '#' && !Text.isBlank c
    match cs.takeWhile isNameChar with
    | [] => none
    | name => some (some (String.ofList name), cs.dropWhile isNameChar)

/-! ### Values -/

/-- The text up to a closing quote, with escapes as they stand, and what follows it.  A backslash takes
the character behind it along, whichever it is. -/
def untilQuote? (quote : Char) : List Char → Option (List Char × List Char)
  | [] => none
  | '\\' :: c :: r => (untilQuote? quote r).map fun (text, rest) => ('\\' :: c :: text, rest)
  | c :: r =>
    if c = quote then some ([], r)
    else (untilQuote? quote r).map fun (text, rest) => (c :: text, rest)

/-- The character that an escape stands for between double quotes. -/
def doubleEscape? : Char → Option Char
  | '\\' => some '\\'
  | '\'' => some '\''
  | '"' => some '"'
  | 'a' => some '\x07'
  | 'b' => some '\x08'
  | 'f' => some '\x0c'
  | 'n' => some '\n'
  | 'r' => some '\r'
  | 't' => some '\t'
  | 'v' => some '\x0b'
  | _ => none

/-- The character that an escape stands for between single quotes. -/
def singleEscape? : Char → Option Char
  | '\\' => some '\\'
  | '\'' => some '\''
  | _ => none

/-- A text with its escapes read; other backslashes stand for themselves. -/
def unescape (escape? : Char → Option Char) : List Char → List Char
  | '\\' :: c :: r =>
    match escape? c with
    | some x => x :: unescape escape? r
    | none => '\\' :: unescape escape? (c :: r)
  | c :: r => c :: unescape escape? r
  | [] => []

/-- A text without a comment behind a blank. -/
def dropComment : List Char → List Char
  | [] => []
  | c :: r =>
    if Text.isBlank c && (r.dropWhile Text.isBlank).head? == some '#' then []
    else c :: dropComment r

/-- The value behind an equals sign, and what follows it.  A value without quotes starts right behind
the sign, so that a comment behind a blank leaves nothing of it; blanks at its ends do not count. -/
def value? (cs : List Char) : Option (List Char × List Char) :=
  match dropInner cs with
  | '\'' :: r => (untilQuote? '\'' r).map fun (text, rest) => (unescape singleEscape? text, rest)
  | '"' :: r => (untilQuote? '"' r).map fun (text, rest) => (unescape doubleEscape? text, rest)
  | _ =>
    let line := cs.takeWhile (!isLineEnd ·)
    some (Text.stripBy Text.isBlank (dropComment line), cs.dropWhile (!isLineEnd ·))

/-! ### Bindings -/

/-- What a reading of a binding comes to. -/
inductive Binding where
  /-- A name, perhaps with a value, and what follows. -/
  | bound (name : Option String) (value : Option String) (rest : List Char)
  /-- No binding; the rest of a line is to be passed over. -/
  | broken (rest : List Char)

/-- What follows the end of a line, behind a comment if need be. -/
def lineEnd? (cs : List Char) : Option (List Char) :=
  let r := match dropInner cs with
    | '#' :: r => r.dropWhile (!isLineEnd ·)
    | r => r
  match r with
  | [] => some []
  | '\r' :: '\n' :: r => some r
  | c :: r => if isLineEnd c then some r else none

/-- The binding at the start of a text. -/
def binding (cs : List Char) : Binding :=
  let start := dropExport (cs.dropWhile Text.isBlank)
  match name? start with
  | none => .broken start
  | some (name, r) =>
    let r := dropInner r
    match r with
    | '=' :: body =>
      match value? body with
      | none => .broken (dropInner body)
      | some (text, rest) =>
        match lineEnd? rest with
        | some rest => .bound name (some (String.ofList text)) rest
        | none => .broken rest
    | _ =>
      match lineEnd? r with
      | some rest => .bound name none rest
      | none => .broken r

/-- The bindings of a text in order.  Each takes at least one character. -/
def bindings : Nat → List Char → List (String × Option String)
  | 0, _ => []
  | steps + 1, cs =>
    if (cs.dropWhile Text.isBlank).isEmpty then []
    else
      match binding cs with
      | .bound (some name) value rest => (name, value) :: bindings steps rest
      | .bound none _ rest => bindings steps rest
      | .broken rest => bindings steps (afterLine rest)

/-! ### Values that name others -/

/-- The name and the default of a reference behind its opening brace, and what follows it. -/
def reference? (cs : List Char) : Option (String × String × List Char) :=
  let name := cs.takeWhile fun c => c != ':' && c != '\x7d'
  match cs.dropWhile fun c => c != ':' && c != '\x7d' with
  | '\x7d' :: rest => some (String.ofList name, "", rest)
  | ':' :: '-' :: r =>
    match r.dropWhile (· ≠ '\x7d') with
    | '\x7d' :: rest =>
      some (String.ofList name, String.ofList (r.takeWhile (· ≠ '\x7d')), rest)
    | _ => none
  | _ => none

/-- A value with the values that it names put in. -/
def expand (lookup : String → Option String) : Nat → List Char → List Char
  | 0, cs => cs
  | _, [] => []
  | steps + 1, c :: r =>
    match c, r with
    | '$', '\x7b' :: body =>
      match reference? body with
      | some (name, default, rest) =>
        ((lookup name).getD default).toList ++ expand lookup steps rest
      | none => c :: expand lookup steps r
    | _, _ => c :: expand lookup steps r

/-- The bindings with their values expanded, each by those before it and then by an environment. -/
def expandAll (environment : Table String String) (bs : List (String × Option String)) :
    Table String (Option String) :=
  bs.foldl (fun done (name, value) =>
    let lookup (n : String) : Option String :=
      match done.get? n with
      | some v => some (v.getD "")
      | none => environment.get? n
    done.put name (value.map fun v => String.ofList (expand lookup v.length v.toList))) []

/-- The values that a file binds.  A byte order mark in front of it does not count. -/
def read (environment : Table String String) (text : String) : Table String (Option String) :=
  let cs := match text.toList with
    | '\ufeff' :: r => r
    | cs => cs
  expandAll environment (bindings (cs.length + 1) cs)

end WorkflowCheck.Dotenv
