import WorkflowCheck.Number.Digits
import WorkflowCheck.Number.Double
import WorkflowCheck.Text.Blank
import WorkflowCheck.Text.Digit
import WorkflowCheck.Text.Quoted

/-!
# Numerals

Texts that are numbers as a whole: integers in a base, and decimal numbers with a point, an exponent or
a name.  A text that is none gives a fault that shows it.

In a text that comes from outside, digits of every script count as the digits that they are, and blanks
at either end do not count.
-/

namespace WorkflowCheck

/-- Why a text is no number, or why a number cannot be worked with. -/
inductive NumberFault where
  /-- No integer in that base. -/
  | notInteger (base : Nat) (text : String)
  /-- An integer of so many decimal digits. -/
  | longInteger (digits : Nat)
  | notDecimal (text : String)
  /-- An integer past the largest double. -/
  | oversized
  deriving DecidableEq, Repr

namespace Numeral

/-- The most decimal digits that an integer is read from. -/
def readDigits : Nat :=
  4300

/-- The most characters of a quoted text that a fault of an integer shows. -/
def shownLength : Nat :=
  200

end Numeral

/-- The text of a fault. -/
def NumberFault.message : NumberFault → String
  | .notInteger base text =>
    "invalid literal for int() with base " ++ toString base ++ ": "
      ++ String.ofList ((Text.quoted text).toList.take Numeral.shownLength)
  | .longInteger digits =>
    "Exceeds the limit (" ++ toString Numeral.readDigits
      ++ " digits) for integer string conversion: value has " ++ toString digits
      ++ " digits; use sys.set_int_max_str_digits() to increase the limit"
  | .notDecimal text => "could not convert string to float: " ++ Text.quoted text
  | .oversized => "int too large to convert to float"

namespace Numeral

/-! ### Decimal numbers -/

/-- The exponent that a whole text is: empty, or a letter e, a sign if need be, and digits. -/
def exponentValue? : List Char → Option Int
  | [] => some 0
  | e :: r =>
    let (negative, digits) := Digits.splitSign r
    if (e = 'e' ∨ e = 'E') ∧ digits ≠ [] ∧ digits.all Char.isDigit then
      some (Digits.withSign negative (Digits.value digits))
    else none

/-- An unsigned decimal number: digits, perhaps with a point before, among or behind them, perhaps
with an exponent. -/
def decimal? (negative : Bool) (cs : List Char) : Option Double :=
  let (whole, rest) := Digits.split cs
  let (places, rest) := match rest with
    | '.' :: r => Digits.split r
    | r => ([], r)
  if whole.isEmpty && places.isEmpty then none
  else
    (exponentValue? rest).map fun power =>
      Double.ofDecimal negative (Digits.value (whole ++ places)) (power - places.length)

/-- A number, an infinity or a NaN by name in any case. -/
def numeral? (cs : List Char) : Option Double :=
  let (negative, body) := Digits.splitSign cs
  let name := String.ofList (body.map Char.toLower)
  if name = "inf" ∨ name = "infinity" then some (.infinite negative)
  else if name = "nan" then some (.nan none)
  else decimal? negative body

/-! ### Texts from outside -/

/-- Whether a character is a blank of ASCII. -/
def isAsciiBlank (c : Char) : Bool :=
  c == ' ' || ('\t' ≤ c && c ≤ '\r')

/-- A text in ASCII: a digit of any script as that digit, any other white space as a space, and a
question mark in place of the first character that is neither and of all behind it. -/
def plain : List Char → List Char
  | [] => []
  | c :: r =>
    if c.toNat < 0x7F then c :: plain r
    else if Text.isWhiteSpace c then ' ' :: plain r
    else
      match Text.digitValue? c with
      | some d => Char.ofNat ('0'.toNat + d) :: plain r
      | none => ['?']

/-- A text from outside without the blanks at its ends. -/
def body (text : String) : List Char :=
  Text.stripBy isAsciiBlank (plain text.toList)

/-- The value of a digit or a letter as a digit. -/
def digit? (c : Char) : Option Nat :=
  if c.isDigit then some (c.toNat - '0'.toNat)
  else if 'a' ≤ c ∧ c ≤ 'z' then some (c.toNat - 'a'.toNat + 10)
  else if 'A' ≤ c ∧ c ≤ 'Z' then some (c.toNat - 'A'.toNat + 10)
  else none

/-- Whether a character is a digit in a base. -/
def isDigitIn (base : Nat) (c : Char) : Bool :=
  (digit? c).any (· < base)

/-- The value of digits in a base. -/
def valueIn (base : Nat) (cs : List Char) : Nat :=
  cs.foldl (fun n c => base * n + (digit? c).getD 0) 0

/-- The letter that may mark a base behind a zero. -/
def baseMark? (base : Nat) : Option Char :=
  Option.map Prod.snd ([(2, 'b'), (8, 'o'), (16, 'x')].find? (·.1 == base))

/-- The text behind the mark of a base, if that is there. -/
def dropMark (base : Nat) : List Char → List Char
  | '0' :: c :: r => if baseMark? base = some c.toLower then r else '0' :: c :: r
  | cs => cs

/-- The integer that a text is in a base: a sign if need be, the mark of the base if need be, and
digits.  A decimal one must not be too long. -/
def integer (base : Nat) (text : String) : Except NumberFault Int :=
  let (negative, signless) := Digits.splitSign (body text)
  let bare := dropMark base signless
  let digits := bare.takeWhile (isDigitIn base)
  if base = 10 ∧ readDigits < digits.length then .error (.longInteger digits.length)
  else if digits.isEmpty || digits.length < bare.length then .error (.notInteger base text)
  else .ok (Digits.withSign negative (valueIn base digits))

/-- The decimal number that a text is. -/
def decimal (text : String) : Except NumberFault Double :=
  match numeral? (body text) with
  | some d => .ok d
  | none => .error (.notDecimal text)

end Numeral

end WorkflowCheck
