import WorkflowCheck.Value.Display

/-!
# Writing JSON

The text of a value in ASCII: a character beyond is written as one `\u` escape, or as the two of its
surrogates when it does not fit into one.  A value is written on one line, or laid out with two more
blanks for each level.  JSON has no moments, bytes, sets or pairs: the former two are written as
strings, and the latter two as arrays; a value inside itself is null.
-/

namespace WorkflowCheck.Json

/-! ### Scalars -/

/-- One 16-bit unit as an escape. -/
def unitEscape (n : Nat) : List Char :=
  '\\' :: 'u' :: Text.hexPadded 4 n

/-- One character of a string. -/
def stringChar (c : Char) : List Char :=
  match c with
  | '"' => ['\\', '"']
  | '\\' => ['\\', '\\']
  | '\n' => ['\\', 'n']
  | '\r' => ['\\', 'r']
  | '\t' => ['\\', 't']
  | '\x0c' => ['\\', 'f']
  | '\x08' => ['\\', 'b']
  | c =>
    let n := c.toNat
    if 0x20 ≤ n ∧ n < 0x7F then [c]
    else if let some unit := Text.surrogate? c then unitEscape unit
    else if n < 0x10000 then unitEscape n
    else unitEscape (Text.highHalf n) ++ unitEscape (Text.lowHalf n)

/-- A string between its quotes. -/
def stringText (s : String) : String :=
  String.ofList ('"' :: s.toList.flatMap stringChar ++ ['"'])

/-- A double, with names for those that no JSON number stands for. -/
def doubleText : Double → String
  | .nan _ => "NaN"
  | .infinite negative => if negative then "-Infinity" else "Infinity"
  | d => d.text

/-- A truth value. -/
def boolText (b : Bool) : String :=
  if b then "true" else "false"

/-- The scalar that a key is. -/
def scalarText : Key → String
  | .null => "null"
  | .bool b => boolText b
  | .int i => toString i
  | .float d => doubleText d
  | .str s => stringText s
  | .moment m => stringText m.text
  | .bytes bs => stringText (Text.quotedBytes bs)

/-- A key, which JSON writes as a string whatever it is. -/
def keyText : Key → String
  | .null => stringText "null"
  | .bool b => stringText (boolText b)
  | .int i => stringText (toString i)
  | .float d => stringText (doubleText d)
  | .str s => stringText s
  | k => stringText k.display

/-! ### Values -/

/-- How items are set apart: the text behind a bracket and a comma, and before the closing bracket,
by the level of the items. -/
structure Layout where
  /-- The text before an item of that level. -/
  before : Nat → String
  /-- The text between two items of that level, behind the comma. -/
  between : Nat → String
  /-- The text before the bracket that closes a container of that level. -/
  closing : Nat → String

/-- All on one line. -/
def Layout.line : Layout :=
  ⟨fun _ => "", fun _ => " ", fun _ => ""⟩

/-- One line for each item, two blanks further in than its container. -/
def Layout.indented : Layout :=
  let newLine (level : Nat) := String.ofList ('\n' :: List.replicate (2 * level) ' ')
  ⟨newLine, newLine, newLine⟩

/-- The texts of the items of a container between its brackets. -/
def Layout.container (layout : Layout) (level : Nat) (opening closing : String)
    (items : List String) : String :=
  if items.isEmpty then opening ++ closing
  else
    opening ++ layout.before (level + 1) ++ ("," ++ layout.between (level + 1)).intercalate items
      ++ layout.closing level ++ closing

mutual

/-- A value that stands at a level. -/
def valueText (layout : Layout) (level : Nat) : Value → String
  | .null => "null"
  | .bool b => boolText b
  | .int i => toString i
  | .float d => doubleText d
  | .str s => stringText s
  | .moment m => stringText m.text
  | .bytes bs => stringText (Text.quotedBytes bs)
  | .arr xs => layout.container level "[" "]" (itemTexts layout (level + 1) xs)
  | .obj fields => layout.container level "\x7b" "\x7d" (fieldTexts layout (level + 1) fields)
  | .set members => layout.container level "[" "]" (members.map scalarText)
  | .pair a b =>
    layout.container level "[" "]" [valueText layout (level + 1) a, valueText layout (level + 1) b]
  | .loop _ body => valueText layout level body
  | .again _ => "null"

/-- The items of an array that stand at a level. -/
def itemTexts (layout : Layout) (level : Nat) : List Value → List String
  | [] => []
  | x :: xs => valueText layout level x :: itemTexts layout level xs

/-- The fields of an object that stand at a level. -/
def fieldTexts (layout : Layout) (level : Nat) : List (Key × Value) → List String
  | [] => []
  | (k, x) :: fs => (keyText k ++ ": " ++ valueText layout level x) :: fieldTexts layout level fs

end

/-- A value on one line. -/
def line (v : Value) : String :=
  valueText .line 0 v

/-- A value laid out over lines. -/
def indented (v : Value) : String :=
  valueText .indented 0 v

end WorkflowCheck.Json
