import WorkflowCheck.Number.Double
import WorkflowCheck.Table
import WorkflowCheck.Value.Moment

/-!
# Values

The data that flows, registries and reports are read from and written as: what a JSON or YAML
document holds.  An object keeps the order of its fields.  The keys of a document written in JSON
are strings; one written in YAML may use any scalar as a key.

YAML has further values: moments, bytes, sets, and pairs.  An array or object of a YAML document may
also hold itself, at any depth.  Such a one is a loop: a mark and a body, in which the mark stands for
the whole loop.  `Value.opened` unrolls a loop once, and every function that looks into a value looks
into it opened.
-/

namespace WorkflowCheck

/-- The key of a field. -/
inductive Key where
  | null
  | bool (b : Bool)
  | int (i : Int)
  | float (d : Double)
  | str (s : String)
  | moment (m : Moment)
  | bytes (bs : List UInt8)
  deriving DecidableEq, Repr, Inhabited

/-- A value of a document. -/
inductive Value where
  | null
  | bool (b : Bool)
  | int (i : Int)
  | float (d : Double)
  | str (s : String)
  | moment (m : Moment)
  | bytes (bs : List UInt8)
  | arr (items : List Value)
  | obj (fields : List (Key × Value))
  | set (members : List Key)
  | pair (first second : Value)
  /-- An array or an object that its mark stands for wherever it holds itself. -/
  | loop (mark : Nat) (body : Value)
  /-- The loop of that mark, inside itself. -/
  | again (mark : Nat)
  deriving Repr, Inhabited

/-- The fields of an object in order. -/
abbrev Fields := Table Key Value

/-- The value that a key is. -/
def Key.toValue : Key → Value
  | .null => .null
  | .bool b => .bool b
  | .int i => .int i
  | .float d => .float d
  | .str s => .str s
  | .moment m => .moment m
  | .bytes bs => .bytes bs

namespace Value

/-! ### Loops -/

mutual

/-- A value with another one in the places of a mark. -/
def replace (mark : Nat) (whole : Value) : Value → Value
  | .again m => if m = mark then whole else .again m
  | .loop m body => if m = mark then .loop m body else .loop m (replace mark whole body)
  | .arr xs => .arr (replaceItems mark whole xs)
  | .obj fields => .obj (replaceFields mark whole fields)
  | .pair a b => .pair (replace mark whole a) (replace mark whole b)
  | v => v

/-- Items with a value in the places of a mark. -/
def replaceItems (mark : Nat) (whole : Value) : List Value → List Value
  | [] => []
  | x :: xs => replace mark whole x :: replaceItems mark whole xs

/-- Fields with a value in the places of a mark. -/
def replaceFields (mark : Nat) (whole : Value) : List (Key × Value) → List (Key × Value)
  | [] => []
  | (k, x) :: fs => (k, replace mark whole x) :: replaceFields mark whole fs

end

/-- A value that is no loop: a loop is unrolled once. -/
def opened : Value → Value
  | .loop mark body => replace mark (.loop mark body) body
  | v => v

/-! ### Fields -/

/-- An object whose keys are strings. -/
def record (fields : List (String × Value)) : Value :=
  .obj (fields.map fun (name, v) => (.str name, v))

/-- The field of that name; none if there is none or the value is no object. -/
def get? (name : String) (v : Value) : Option Value :=
  match v.opened with
  | .obj fields => Table.get? (.str name) fields
  | _ => none

/-- The field of that name, null standing in for an absent one. -/
def field (name : String) (v : Value) : Value :=
  (v.get? name).getD .null

/-- Whether the value is an object with a field of that name. -/
def has (name : String) (v : Value) : Bool :=
  (v.get? name).isSome

/-! ### Kinds -/

/-- The value with a name if it is a NaN without one. -/
def named (name : Nat) : Value → Value
  | .float d => .float (d.named name)
  | v => v

/-- The text of a string that is not empty. -/
def filledText? : Value → Option String
  | .str s => if s.isEmpty then none else some s
  | _ => none

/-- The text of a string. -/
def text? : Value → Option String
  | .str s => some s
  | _ => none

/-- The items of an array or a pair; no value of another kind has any. -/
def items (v : Value) : List Value :=
  match v.opened with
  | .arr xs => xs
  | .pair a b => [a, b]
  | _ => []

/-- Whether the value is an array or a pair. -/
def isArray (v : Value) : Bool :=
  match v.opened with
  | .arr _ => true
  | .pair _ _ => true
  | _ => false

/-- Whether the value is an array and no pair. -/
def isList (v : Value) : Bool :=
  match v.opened with
  | .arr _ => true
  | _ => false

/-- Whether the value is an object. -/
def isObject (v : Value) : Bool :=
  match v.opened with
  | .obj _ => true
  | _ => false

/-- Whether the value is null. -/
def isNull : Value → Bool
  | .null => true
  | _ => false

/-- Null, an empty string, an empty array, an empty object and an empty set are empty. -/
def isEmpty : Value → Bool
  | .null => true
  | .str s => s.isEmpty
  | .arr xs => xs.isEmpty
  | .obj fields => fields.isEmpty
  | .set members => members.isEmpty
  | _ => false

/-- What stands for "nothing there": an empty value, no bytes, false, and a zero of either kind. -/
def isVoid : Value → Bool
  | .bool b => !b
  | .int i => i == 0
  | .float d => d.same (.finite false 0)
  | .bytes bs => bs.isEmpty
  | v => v.isEmpty

end Value

end WorkflowCheck
