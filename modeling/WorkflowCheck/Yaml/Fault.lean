import WorkflowCheck.Number.Numeral
import WorkflowCheck.Value.Moment

/-!
# Faults of YAML

Why a YAML text gives no value.  Most faults are those of a text that is malformed, which is all that
is told of them.  The others are faults of a single scalar: what it holds is not what its tag says.
-/

namespace WorkflowCheck.Yaml

/-- Why a text gives no value. -/
inductive Fault where
  /-- The text is not YAML, holds more than one document, or uses tags that are not known. -/
  | malformed
  /-- The text goes on, but what follows cannot be read. -/
  | unread
  /-- An escape names a number that is no code point. -/
  | codePoint (n : Nat)
  /-- A word in lower case is no truth value. -/
  | truthWord (word : String)
  /-- A number has no characters. -/
  | noDigits
  | number (f : NumberFault)
  | moment (f : MomentFault)
  /-- A text has not the look of a moment. -/
  | notMoment
  /-- A mapping stands in the place of the text of a moment. -/
  | momentOfMapping
  /-- Too many collections stand in one another, or default values in one another. -/
  | tooDeep
  deriving DecidableEq, Repr

/-- Whether a number is too large even to be compared with the code points. -/
def isBeyondNumbers (n : Nat) : Bool :=
  0x80000000 ≤ n

/-- The text of a fault that has one. -/
def Fault.message : Fault → String
  | .malformed | .unread => ""
  | .codePoint n =>
    if isBeyondNumbers n then "Python int too large to convert to C int"
    else "chr() arg not in range(0x110000)"
  | .truthWord word => Text.quoted word
  | .noDigits => "string index out of range"
  | .number f => f.message
  | .moment f => f.message
  | .notMoment => "'NoneType' object has no attribute 'groupdict'"
  | .momentOfMapping => "expected string or bytes-like object, got 'list'"
  | .tooDeep => "maximum recursion depth exceeded"

end WorkflowCheck.Yaml
