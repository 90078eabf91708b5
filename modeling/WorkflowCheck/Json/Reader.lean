import WorkflowCheck.Json.Token
import WorkflowCheck.Value.Basic

/-!
# Reading JSON

A text is read token by token.  The containers that are open wait on a stack, each with what it
already holds, and a closed container is a finished value for the one below it.  A key that comes
twice keeps its first place and takes its last value.  Containers are read to a limited depth, and the
first fault in the order of the text is the one that is told.
-/

namespace WorkflowCheck.Json

/-- Why a text gives no value. -/
inductive Fault where
  /-- The text is not JSON. -/
  | malformed
  /-- An array or an object stands in too many others. -/
  | tooDeep (isArray : Bool)
  | number (f : NumberFault)
  deriving DecidableEq, Repr

/-- The text of a fault that has one. -/
def Fault.message : Fault → String
  | .malformed => ""
  | .tooDeep isArray =>
    "maximum recursion depth exceeded while decoding a JSON "
      ++ (if isArray then "array" else "object") ++ " from a unicode string"
  | .number f => f.message

/-- In how many containers a further one may stand. -/
def maxDepth : Nat :=
  987

/-- An open container. -/
inductive Frame where
  /-- The items so far, the last one first. -/
  | items (done : List Value)
  /-- The fields so far, and the key whose value comes next. -/
  | fields (done : Fields) (key : String)

/-- What may come next. -/
inductive Expected where
  | value
  | valueOrClose
  | keyOrClose (done : Fields)
  | key (done : Fields)
  | colon (done : Fields) (key : String)
  | commaOrClose
  | nothing
  deriving Inhabited

/-- A reading under way: the open containers from the inside out, what may come next, and the whole
value once it is there. -/
structure Reading where
  opened : List Frame := []
  expected : Expected := .value
  result : Value := .null

namespace Reading

/-- The reading after a finished value. -/
def finish (r : Reading) (v : Value) : Reading :=
  match r.opened with
  | [] => { r with expected := .nothing, result := v }
  | .items done :: outer => { r with opened := .items (v :: done) :: outer, expected := .commaOrClose }
  | .fields done key :: outer =>
    { r with opened := .fields (Table.put (.str key) v done) key :: outer, expected := .commaOrClose }

/-- The reading with one more container begun, unless too many are open. -/
def enter (r : Reading) (isArray : Bool) (begun : Reading) : Except Fault Reading :=
  if maxDepth < r.opened.length then .error (.tooDeep isArray) else .ok begun

/-- The reading after a token at whose place a value is expected. -/
def begin (r : Reading) : Token → Except Fault Reading
  | .null => .ok (r.finish .null)
  | .bool b => .ok (r.finish (.bool b))
  | .int i => .ok (r.finish (.int i))
  | .longInt digits => .error (.number (.longInteger digits))
  | .float d => .ok (r.finish (.float d))
  | .str s => .ok (r.finish (.str s))
  | .openArray => r.enter true { r with opened := .items [] :: r.opened, expected := .valueOrClose }
  | .openObject => r.enter false { r with expected := .keyOrClose [] }
  | _ => .error .malformed

/-- The reading after a comma or the end of the innermost container. -/
def continue? (r : Reading) : Token → Option Reading
  | .comma =>
    match r.opened with
    | .items _ :: _ => some { r with expected := .value }
    | .fields done _ :: outer => some { r with opened := outer, expected := .key done }
    | [] => none
  | .closeArray =>
    match r.opened with
    | .items done :: outer => some ({ r with opened := outer }.finish (.arr done.reverse))
    | _ => none
  | .closeObject =>
    match r.opened with
    | .fields done _ :: outer => some ({ r with opened := outer }.finish (.obj done))
    | _ => none
  | _ => none

/-- The reading after a token at whose place no value begins; none if the token may not stand
there. -/
def join? (r : Reading) (t : Token) : Option Reading :=
  match r.expected, t with
  | .valueOrClose, .closeArray => r.continue? .closeArray
  | .keyOrClose done, .closeObject => some (r.finish (.obj done))
  | .keyOrClose done, .str key => some { r with expected := .colon done key }
  | .key done, .str key => some { r with expected := .colon done key }
  | .colon done key, .colon =>
    some { r with opened := .fields done key :: r.opened, expected := .value }
  | .commaOrClose, t => r.continue? t
  | _, _ => none

/-- The reading after one more token. -/
def step (r : Reading) (t : Token) : Except Fault Reading :=
  match r.expected, t with
  | .value, t => r.begin t
  | .valueOrClose, .closeArray => (r.join? t).elim (.error .malformed) .ok
  | .valueOrClose, t => r.begin t
  | _, t => (r.join? t).elim (.error .malformed) .ok

end Reading

/-- The value that a text holds. -/
def read (text : String) : Except Fault Value := do
  let (tokens, whole) := Token.lex text.toList
  let r ← tokens.foldlM Reading.step {}
  match r.expected, whole with
  | .nothing, true => return r.result
  | _, _ => throw .malformed

/-- The value that a text holds; none if there is a fault. -/
def read? (text : String) : Option Value :=
  (read text).toOption

end WorkflowCheck.Json
