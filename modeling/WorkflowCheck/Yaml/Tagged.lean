import WorkflowCheck.Text.Base64
import WorkflowCheck.Text.Lower
import WorkflowCheck.Value.Basic
import WorkflowCheck.Yaml.Fault
import WorkflowCheck.Yaml.Tag

/-!
# Scalars by their tags

The value of a scalar whose tag is known.  A scalar with a tag of its own need not look like what the
tag says, so reading it is more lenient than its look: a truth value may be written in any case, and a
number may have underscores and signs anywhere that leave digits behind.
-/

namespace WorkflowCheck.Yaml.Tagged

/-! ### Truth values -/

/-- The words for truth values. -/
def truthWords : List (String × Bool) :=
  [("yes", true), ("no", false), ("true", true), ("false", false), ("on", true), ("off", false)]

/-- A truth value in any case. -/
def truth (text : String) : Except Fault Bool :=
  let word := Text.lower text
  match truthWords.lookup word with
  | some b => .ok b
  | none => .error (.truthWord word)

/-! ### Numbers -/

/-- A number's text without underscores, and whether a minus sign stood in front; neither sign is left
there.  The text must have a character. -/
def signed (text : String) : Except Fault (Bool × List Char) :=
  match text.toList.filter (· ≠ '_') with
  | [] => .error .noDigits
  | cs => .ok (Digits.splitSign cs)

/-- An integer in a base. -/
def integerIn (base : Nat) (cs : List Char) : Except Fault Int :=
  (Numeral.integer base (String.ofList cs)).mapError .number

/-- The integer of a text without a sign in front: binary, hexadecimal, octal, in base sixty, or
decimal. -/
def magnitude (cs : List Char) : Except Fault Int :=
  match cs with
  | [] => .error .noDigits
  | ['0'] => .ok 0
  | '0' :: 'b' :: r => integerIn 2 r
  | '0' :: 'x' :: r => integerIn 16 r
  | '0' :: _ => integerIn 8 cs
  | _ =>
    if cs.contains ':' then do
      let parts ← (Look.betweenColons cs).mapM (integerIn 10)
      return parts.foldl (fun n part => 60 * n + part) 0
    else integerIn 10 cs

/-- An integer. -/
def integer (text : String) : Except Fault Int := do
  let (negative, cs) ← signed text
  let n ← magnitude cs
  return if negative then -n else n

/-- A decimal number. -/
def decimalOf (cs : List Char) : Except Fault Double :=
  (Numeral.decimal (String.ofList cs)).mapError .number

/-- The sum of parts of a number in base sixty, from the last one on.  Each counts so many times, which
must not be past the largest double. -/
def sixtieths : Nat → Double → List Double → Except Fault Double
  | _, sum, [] => .ok sum
  | base, sum, part :: parts =>
    match Double.ofInt? base with
    | some b => sixtieths (60 * base) (sum + part.mul b) parts
    | none => .error (.number .oversized)

/-- The number of a text in lower case without a sign in front. -/
def size (cs : List Char) : Except Fault Double :=
  if cs = ".inf".toList then .ok (.infinite false)
  else if cs = ".nan".toList then .ok .writtenNan
  else if cs.contains ':' then do
    let parts ← (Look.betweenColons cs).mapM decimalOf
    sixtieths 1 (.finite false 0) parts.reverse
  else decimalOf cs

/-- A number with a point, an infinity or a NaN, in any case. -/
def decimal (text : String) : Except Fault Double := do
  let (negative, cs) ← signed (Text.lower text)
  let d ← size cs
  return if negative then d.neg else d

/-! ### Moments -/

/-- A fraction of a second in microseconds. -/
def microseconds (fraction : List Char) : Nat :=
  let digits := fraction.take 6
  Digits.value (digits ++ List.replicate (6 - digits.length) '0')

/-- The minutes ahead of universal time that a sign, hours and minutes stand for. -/
def minutesAhead : Option (Bool × List Char × List Char) → Int
  | none => 0
  | some (negative, hours, minutes) =>
    Digits.withSign negative (60 * Digits.value hours + Digits.value minutes)

/-- A moment. -/
def moment (text : String) : Except Fault Moment :=
  match Look.momentParts? (Look.trimmed text.toList) with
  | none => .error .notMoment
  | some p =>
    let time := p.clock.map fun (hour, minute, second, fraction) =>
      ((⟨Digits.value hour, Digits.value minute, Digits.value second, microseconds fraction⟩ : Clock),
        p.zone.map minutesAhead)
    (Moment.ofParts ⟨Digits.value p.year, Digits.value p.month, Digits.value p.day⟩ time).mapError
      .moment

/-! ### Bytes -/

/-- Bytes in base 64, of which only ASCII characters may be a part. -/
def bytes (text : String) : Except Fault (List UInt8) :=
  if text.toList.all fun c => c.toNat < 0x80 then
    (Text.base64? text).elim (.error .malformed) .ok
  else .error .malformed

/-! ### All scalars -/

/-- The value of a scalar with a tag.  Collections are no scalars, and neither are the keys of merged
and default values. -/
def value (tag : Tag) (text : String) : Except Fault Value :=
  match tag with
  | .null => .ok .null
  | .truth => (truth text).map .bool
  | .integer => (integer text).map .int
  | .decimal => (decimal text).map .float
  | .moment => (moment text).map .moment
  | .bytes => (bytes text).map .bytes
  | .text => .ok (.str text)
  | _ => .error .malformed

end WorkflowCheck.Yaml.Tagged
