import WorkflowCheck.Number.Digits

/-!
# Tags and looks

A tag says what a node stands for.  A scalar without one is what it looks like: null, a truth value, a
number or a moment, and its own text otherwise.  The looks are those of YAML 1.1: truth values are
words in three spellings; integers may be binary, octal, hexadecimal or in base sixty, and numbers may
have underscores.  A line feed at the end does not change a look.
-/

namespace WorkflowCheck.Yaml

/-! ### Tags -/

/-- What a node stands for. -/
inductive Tag where
  | null
  | truth
  | integer
  | decimal
  | bytes
  | moment
  | text
  | sequence
  | mapping
  | set
  /-- A sequence of mappings of one entry each, in order. -/
  | pairs
  /-- The key whose value is merged into its mapping. -/
  | merge
  /-- The key of a default value. -/
  | default
  | unknown
  deriving DecidableEq, Repr, Inhabited

/-- What the tags of the standard start with. -/
def coreSpace : String :=
  "tag:yaml.org,2002:"

namespace Tag

/-- The names of the tags of the standard. -/
def names : List (String × Tag) :=
  [("null", .null), ("bool", .truth), ("int", .integer), ("float", .decimal), ("binary", .bytes),
    ("timestamp", .moment), ("str", .text), ("seq", .sequence), ("map", .mapping), ("set", .set),
    ("omap", .pairs), ("pairs", .pairs), ("merge", .merge), ("value", .default)]

/-- The tag of a name in full. -/
def ofName (name : String) : Tag :=
  match names.find? fun (short, _) => coreSpace ++ short == name with
  | some (_, tag) => tag
  | none => .unknown

/-- Whether nodes of a tag are collections, which are no keys. -/
def isCollection : Tag → Bool
  | .sequence | .mapping | .set | .pairs => true
  | _ => false

end Tag

/-! ### Words -/

namespace Look

/-- The spellings of null. -/
def nullWords : List String :=
  ["~", "null", "Null", "NULL"]

/-- The spellings of truth values. -/
def truthWords : List String :=
  ["yes", "Yes", "YES", "no", "No", "NO", "true", "True", "TRUE", "false", "False", "FALSE",
    "on", "On", "ON", "off", "Off", "OFF"]

/-! ### Digits -/

/-- Whether a character is a digit or an underscore. -/
def isDigitOrUnderscore (c : Char) : Bool :=
  c.isDigit || c == '_'

/-- The parts of a text between colons. -/
def betweenColons : List Char → List (List Char)
  | [] => [[]]
  | ':' :: r => [] :: betweenColons r
  | c :: r =>
    match betweenColons r with
    | [] => [[c]]
    | part :: parts => (c :: part) :: parts

/-- Whether a part of a number in base sixty is one behind the first: one or two digits below
sixty. -/
def isSixtieth : List Char → Bool
  | [a] => a.isDigit
  | [a, b] => '0' ≤ a && a ≤ '5' && b.isDigit
  | _ => false

/-! ### Integers -/

/-- Whether a text has the look of an integer without a sign. -/
def isUnsignedInteger (cs : List Char) : Bool :=
  match cs with
  | ['0'] => true
  | '0' :: 'b' :: r => !r.isEmpty && r.all fun c => c == '_' || c == '0' || c == '1'
  | '0' :: 'x' :: r =>
    !r.isEmpty && r.all fun c =>
      isDigitOrUnderscore c || ('a' ≤ c && c ≤ 'f') || ('A' ≤ c && c ≤ 'F')
  | '0' :: r => r.all fun c => c == '_' || ('0' ≤ c && c ≤ '7')
  | c :: _ =>
    c.isDigit &&
      (match betweenColons cs with
        | first :: parts => first.all isDigitOrUnderscore && parts.all isSixtieth
        | [] => false)
  | [] => false

/-- Whether a text has the look of an integer. -/
def isInteger (cs : List Char) : Bool :=
  isUnsignedInteger (Digits.splitSign cs).2

/-! ### Numbers with a point -/

/-- Whether a text is an exponent, a letter e, a sign and digits, or nothing. -/
def isExponent : List Char → Bool
  | [] => true
  | e :: sign :: digits =>
    (e == 'e' || e == 'E') && (sign == '+' || sign == '-') && !digits.isEmpty
      && digits.all Char.isDigit
  | _ => false

/-- Whether a text has the look of a number with a point: it starts with a digit, or with the point and
a digit when it has no sign. -/
def isPointed (signed : Bool) (cs : List Char) : Bool :=
  let whole := cs.takeWhile isDigitOrUnderscore
  match cs.dropWhile isDigitOrUnderscore with
  | '.' :: r =>
    (if whole.isEmpty then !signed && r.head?.any Char.isDigit else whole.head?.any Char.isDigit)
      && isExponent (r.dropWhile isDigitOrUnderscore)
  | _ => false

/-- Whether a text has the look of the last part of a number with a point in base sixty. -/
def isLastSixtieth (cs : List Char) : Bool :=
  isSixtieth (cs.takeWhile (· ≠ '.')) &&
    (match cs.dropWhile (· ≠ '.') with
      | '.' :: places => places.all isDigitOrUnderscore
      | _ => false)

/-- Whether a text has the look of a number with a point in base sixty. -/
def isPointedSexagesimal (cs : List Char) : Bool :=
  match betweenColons cs with
  | first :: second :: parts =>
    let rest := second :: parts
    first.head?.any Char.isDigit && first.all isDigitOrUnderscore
      && rest.dropLast.all isSixtieth && rest.getLast?.any isLastSixtieth
  | _ => false

/-- Whether a text has the look of a number with a point, an infinity or a NaN. -/
def isDecimal (cs : List Char) : Bool :=
  let body := (Digits.splitSign cs).2
  let signed := decide (body.length ≠ cs.length)
  [".inf", ".Inf", ".INF"].contains (String.ofList body)
    || [".nan", ".NaN", ".NAN"].contains (String.ofList cs)
    || isPointed signed body || isPointedSexagesimal body

/-! ### Moments -/

/-- The parts of a text that has the look of a moment. -/
structure MomentParts where
  year : List Char
  month : List Char
  day : List Char
  /-- The hour, the minute, the second and the fraction of the second. -/
  clock : Option (List Char × List Char × List Char × List Char)
  /-- The sign, the hours and the minutes of the way to universal time, or none for universal time. -/
  zone : Option (Option (Bool × List Char × List Char))

/-- Digits of a number from `least` to `most` at the start of a text, as many as can be, and what
follows them. -/
def digits? (least most : Nat) (cs : List Char) : Option (List Char × List Char) :=
  let run := (cs.take most).takeWhile Char.isDigit
  if run.length < least then none else some (run, cs.drop run.length)

/-- What follows a character at the start of a text. -/
def after? (c : Char) : List Char → Option (List Char)
  | [] => none
  | x :: r => if x = c then some r else none

/-- Whether a character is a space or a tab. -/
def isGap (c : Char) : Bool :=
  c == ' ' || c == '\t'

/-- The zone that a whole text is, perhaps behind blanks. -/
def zone? (cs : List Char) : Option (Option (Option (Bool × List Char × List Char))) :=
  if cs.isEmpty then some none
  else
    match cs.dropWhile isGap with
    | ['Z'] => some (some none)
    | sign :: r => do
      let (hours, r) ← digits? 1 2 r
      let minutes ← if r.isEmpty then some [] else do
        let (minutes, r) ← digits? 2 2 (← after? ':' r)
        if r.isEmpty then some minutes else none
      if sign = '+' ∨ sign = '-' then some (some (some (sign = '-', hours, minutes))) else none
    | [] => none

/-- The clock and the zone that a whole text is, behind a letter or blanks. -/
def clock? (cs : List Char) :
    Option ((List Char × List Char × List Char × List Char) ×
      Option (Option (Bool × List Char × List Char))) := do
  let r ← match cs with
    | 'T' :: r | 't' :: r => some r
    | _ => if cs.head?.any isGap then some (cs.dropWhile isGap) else none
  let (hour, r) ← digits? 1 2 r
  let (minute, r) ← digits? 2 2 (← after? ':' r)
  let (second, r) ← digits? 2 2 (← after? ':' r)
  let (fraction, r) := match r with
    | '.' :: r => Digits.split r
    | r => ([], r)
  return ((hour, minute, second, fraction), ← zone? r)

/-- The parts of a moment that a whole text is. -/
def momentParts? (cs : List Char) : Option MomentParts := do
  let (year, r) ← digits? 4 4 cs
  let (month, r) ← digits? 1 2 (← after? '-' r)
  let (day, r) ← digits? 1 2 (← after? '-' r)
  if r.isEmpty then return ⟨year, month, day, none, none⟩
  let (clock, zone) ← clock? r
  return ⟨year, month, day, some clock, zone⟩

/-- Whether a text has the look of a moment.  A day alone has a month and a day of two digits. -/
def isMoment (cs : List Char) : Bool :=
  match momentParts? cs with
  | none => false
  | some p => p.clock.isSome || (p.month.length == 2 && p.day.length == 2)

/-! ### All looks -/

/-- A text without a line feed at its end. -/
def trimmed (cs : List Char) : List Char :=
  if cs.getLast? = some '\n' then cs.dropLast else cs

/-- The tag of what a text looks like. -/
def tagOf (text : String) : Tag :=
  let cs := trimmed text.toList
  let word := String.ofList cs
  if truthWords.contains word then .truth
  else if isDecimal cs then .decimal
  else if isInteger cs then .integer
  else if word = "<<" then .merge
  else if text.isEmpty || nullWords.contains word then .null
  else if isMoment cs then .moment
  else if word = "=" then .default
  else if ["!", "&", "*"].contains word then .unknown
  else .text

end Look

end WorkflowCheck.Yaml
