import WorkflowCheck.Decode.Checked
import WorkflowCheck.Number.Numeral
import WorkflowCheck.Text.Blank
import WorkflowCheck.Value.Basic

/-!
# Reading scalars

A text is a string, or bytes that are the UTF-8 form of one.  A number may also come as a truth value or
as a numeric text, and a truth value as 0 or 1 or as one of a few words.
-/

namespace WorkflowCheck.Decode

/-! ### Texts and words -/

/-- A string, or bytes that are the UTF-8 form of one. -/
def text : Value → Checked String
  | .str s => .valid s
  | .bytes bs =>
    match String.fromUTF8? ⟨bs.toArray⟩ with
    | some s => .valid s
    | none => .fault .notUnicode
  | _ => .fault .notText

/-- A string that is not empty and holds no lone surrogate. -/
def filledText (v : Value) : Checked String :=
  (text v).andThen fun s =>
    if Text.holdsSurrogate s then .fault .notUnicode
    else if s.isEmpty then .fault .emptyText
    else .valid s

/-- The meaning of one of the words of a vocabulary. -/
def word {α : Type} (vocabulary : List (String × α)) (v : Value) : Checked α :=
  match (text v).toOption.bind fun s => Table.get? s vocabulary with
  | some a => .valid a
  | none => .fault (.notWord (vocabulary.map (·.1)))

/-! ### Numbers -/

/-- Whether two underscores stand side by side. -/
def doubledUnderscore : List Char → Bool
  | '_' :: '_' :: _ => true
  | _ :: r => doubledUnderscore r
  | [] => false

/-- A text without its underscores, each of which must stand alone inside it; there must be one. -/
def withoutUnderscores? (cs : List Char) : Option (List Char) :=
  if cs.head? = some '_' ∨ cs.getLast? = some '_' ∨ doubledUnderscore cs ∨ '_' ∉ cs then none
  else some (cs.filter (· ≠ '_'))

/-- The number that a string holds.  Either white space around it does not count or single underscores
inside it do not, but not both. -/
def numericString? (s : String) : Option Double :=
  (Numeral.numeral? (Text.stripBy Text.isWhiteSpace s.toList)).orElse fun _ =>
    (withoutUnderscores? s.toList).bind Numeral.numeral?

/-- What a text stands for where no text is wanted: one without lone surrogates, that means something. -/
def worded {α : Type} (meaning? : String → Option α) (unreadable : Fault) (s : String) : Checked α :=
  if Text.holdsSurrogate s then .fault .notUnicode
  else
    match meaning? s with
    | some a => .valid a
    | none => .fault unreadable

/-- What bytes stand for where no text is wanted: that of which they are the UTF-8 form. -/
def wordedBytes {α : Type} (meaning? : String → Option α) (unreadable : Fault) (bs : List UInt8) :
    Checked α :=
  match (String.fromUTF8? ⟨bs.toArray⟩).bind meaning? with
  | some a => .valid a
  | none => .fault unreadable

/-- A number. -/
def number : Value → Checked Double
  | .float d => .valid d
  | .int i =>
    match Double.ofInt? i with
    | some d => .valid d
    | none => .fault .notNumber
  | .bool b => .valid (Double.ofRatio (if b then 1 else 0) 1)
  | .str s => worded numericString? .unreadableNumber s
  | .bytes bs => wordedBytes numericString? .unreadableNumber bs
  | _ => .fault .notNumber

/-! ### Truth values -/

/-- The truth value that a word stands for, in any case. -/
def truthWord? (s : String) : Option Bool :=
  let name := String.ofList (s.toList.map Char.toLower)
  if ["1", "t", "true", "y", "yes", "on"].contains name then some true
  else if ["0", "f", "false", "n", "no", "off"].contains name then some false
  else none

/-- The truth value that an integer stands for.  One that takes more than 64 bits is not even looked
at. -/
def truthOfInt (i : Int) : Checked Bool :=
  if i = 0 then .valid false
  else if i = 1 then .valid true
  else if Int64.minValue.toInt ≤ i ∧ i ≤ Int64.maxValue.toInt then .fault .unreadableTruth
  else .fault .notTruth

/-- A truth value.  A double without a fraction counts as an integer, unless it is as large as those
that take more than 64 bits. -/
def truth : Value → Checked Bool
  | .bool b => .valid b
  | .int i => truthOfInt i
  | .float d =>
    match d.toInt? with
    | some i => if i.natAbs < Int64.maxValue.toInt.natAbs then truthOfInt i else .fault .notTruth
    | none => .fault .notTruth
  | .str s => worded truthWord? .unreadableTruth s
  | .bytes bs => wordedBytes truthWord? .unreadableTruth bs
  | _ => .fault .notTruth

end WorkflowCheck.Decode
