import WorkflowCheck.Number.Numeral
import WorkflowCheck.Text.Surrogate

/-!
# JSON tokens

The words of a JSON text.  `Token.lex` cuts a text into them, skipping blanks, up to a part that is no
token.  Besides the standard's words the numbers `NaN`, `Infinity` and `-Infinity` are read.  A number
with neither a fraction nor an exponent is an integer, every other one the nearest double; of an
integer of very many digits only their number is told.
-/

namespace WorkflowCheck.Json

/-- A word of a JSON text. -/
inductive Token where
  | openArray
  | closeArray
  | openObject
  | closeObject
  | comma
  | colon
  | null
  | bool (b : Bool)
  | int (i : Int)
  /-- An integer of so many digits that it is not read. -/
  | longInt (digits : Nat)
  | float (d : Double)
  | str (s : String)
  deriving DecidableEq, Repr

namespace Token

/-! ### Numbers -/

/-- The exponent at the start of a text, if there is one, and the rest. -/
def exponent? : List Char → Option (Int × List Char)
  | e :: rest =>
    if e = 'e' ∨ e = 'E' then
      let (negative, body) := Digits.splitSign rest
      let (digits, rest) := Digits.split body
      if digits.isEmpty then none else some (Digits.withSign negative (Digits.value digits), rest)
    else none
  | [] => none

/-- The digits of a fraction at the start of a text, if there is one, and the rest. -/
def fraction? : List Char → Option (List Char × List Char)
  | '.' :: rest => if (Digits.split rest).1.isEmpty then none else some (Digits.split rest)
  | _ => none

/-- The number that starts with a digit at the start of a text, and the rest.  No zero stands before
another digit of the whole part. -/
def number (negative : Bool) (cs : List Char) : Token × List Char :=
  let (whole, rest) := match cs with
    | '0' :: r => (['0'], r)
    | _ => Digits.split cs
  let (places, afterFraction, hasFraction) := match fraction? rest with
    | some (digits, r) => (digits, r, true)
    | none => ([], rest, false)
  let (power, afterExponent, hasExponent) := match exponent? afterFraction with
    | some (e, r) => (e, r, true)
    | none => (0, afterFraction, false)
  if hasFraction || hasExponent then
    (.float (Double.ofDecimal negative (Digits.value (whole ++ places)) (power - places.length)),
      afterExponent)
  else if Numeral.readDigits < whole.length then (.longInt whole.length, afterExponent)
  else (.int (Digits.withSign negative (Digits.value whole)), afterExponent)

/-! ### Strings -/

/-- The value of a hexadecimal digit. -/
def hexDigit? (c : Char) : Option Nat :=
  if c.isDigit then some (c.toNat - '0'.toNat)
  else if 'a' ≤ c ∧ c ≤ 'f' then some (c.toNat - 'a'.toNat + 10)
  else if 'A' ≤ c ∧ c ≤ 'F' then some (c.toNat - 'A'.toNat + 10)
  else none

/-- The value of four hexadecimal digits. -/
def unit? (a b c d : Char) : Option Nat := do
  return (((← hexDigit? a) * 16 + (← hexDigit? b)) * 16 + (← hexDigit? c)) * 16 + (← hexDigit? d)

/-- The character that a backslash and a letter stand for. -/
def escaped? : Char → Option Char
  | '"' => some '"'
  | '\\' => some '\\'
  | '/' => some '/'
  | 'b' => some '\x08'
  | 'f' => some '\x0c'
  | 'n' => some '\n'
  | 'r' => some '\r'
  | 't' => some '\t'
  | _ => none

/-- The code point that a high and a low surrogate stand for. -/
def pair? (high low : Nat) : Option Nat :=
  if 0xD800 ≤ high ∧ high < 0xDC00 ∧ 0xDC00 ≤ low ∧ low < 0xE000 then
    some (0x10000 + (high - 0xD800) * 0x400 + (low - 0xDC00))
  else none

/-- The body of a string up to its closing quote, and the rest behind that.  A control character
does not stand in a string as itself; two escaped surrogates that form a pair are one character, and
any other one stays alone. -/
def stringBody : List Char → Option (List Char × List Char)
  | '"' :: rest => some ([], rest)
  | '\\' :: 'u' :: a :: b :: c :: d :: '\\' :: 'u' :: e :: f :: g :: h :: rest => do
    let first ← unit? a b c d
    match (unit? e f g h).bind (pair? first) with
    | some n =>
      let (cs, r) ← stringBody rest
      return (Char.ofNat n :: cs, r)
    | none =>
      let (cs, r) ← stringBody ('\\' :: 'u' :: e :: f :: g :: h :: rest)
      return (Text.charOfCode first :: cs, r)
  | '\\' :: 'u' :: a :: b :: c :: d :: rest => do
    let n ← unit? a b c d
    let (cs, r) ← stringBody rest
    return (Text.charOfCode n :: cs, r)
  | '\\' :: c :: rest => do
    let x ← escaped? c
    let (cs, r) ← stringBody rest
    return (x :: cs, r)
  | c :: rest =>
    if c.toNat < 0x20 then none
    else do
      let (cs, r) ← stringBody rest
      return (c :: cs, r)
  | [] => none

/-! ### Words -/

/-- Blanks may stand between any two tokens. -/
def isBlank (c : Char) : Bool :=
  c == ' ' || c == '\t' || c == '\n' || c == '\r'

/-- The token at the start of a text, and the rest. -/
def next? : List Char → Option (Token × List Char)
  | '[' :: r => some (.openArray, r)
  | ']' :: r => some (.closeArray, r)
  | '\x7b' :: r => some (.openObject, r)
  | '\x7d' :: r => some (.closeObject, r)
  | ',' :: r => some (.comma, r)
  | ':' :: r => some (.colon, r)
  | '"' :: r => (stringBody r).map fun (cs, rest) => (.str (String.ofList cs), rest)
  | 'n' :: 'u' :: 'l' :: 'l' :: r => some (.null, r)
  | 't' :: 'r' :: 'u' :: 'e' :: r => some (.bool true, r)
  | 'f' :: 'a' :: 'l' :: 's' :: 'e' :: r => some (.bool false, r)
  | 'N' :: 'a' :: 'N' :: r => some (.float .writtenNan, r)
  | 'I' :: 'n' :: 'f' :: 'i' :: 'n' :: 'i' :: 't' :: 'y' :: r => some (.float (.infinite false), r)
  | '-' :: 'I' :: 'n' :: 'f' :: 'i' :: 'n' :: 'i' :: 't' :: 'y' :: r =>
    some (.float (.infinite true), r)
  | '-' :: c :: r => if c.isDigit then some (number true (c :: r)) else none
  | c :: r => if c.isDigit then some (number false (c :: r)) else none
  | [] => none

/-- The tokens of a text, and whether they are all of it.  Each token takes at least one character, so
as many steps as there are characters are enough. -/
def lexWithin : Nat → List Char → List Token × Bool
  | 0, cs => ([], cs.all isBlank)
  | steps + 1, cs =>
    match cs.dropWhile isBlank with
    | [] => ([], true)
    | cs' =>
      match next? cs' with
      | none => ([], false)
      | some (t, rest) =>
        let (ts, whole) := lexWithin steps rest
        (t :: ts, whole)

/-- The tokens of a text up to a part that is none, and whether they are all of it. -/
def lex (cs : List Char) : List Token × Bool :=
  lexWithin cs.length cs

end Token

end WorkflowCheck.Json
