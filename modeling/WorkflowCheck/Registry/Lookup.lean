import WorkflowCheck.Registry.Basic

/-!
# Looking up values in a registry

The type of a raw node may be any value, and so may what a registry is asked for.  Only strings are
types; other scalars are never known.  Arrays and objects cannot be asked for, since what can change
is no key, and no entry can be written over.
-/

namespace WorkflowCheck

/-- Why a registry cannot be used in that way. -/
inductive LookupError where
  | arrayKey
  | objectKey
  /-- An entry was to be written over. -/
  | readOnly
  deriving DecidableEq, Repr

/-- The text of an error. -/
def LookupError.message : LookupError → String
  | .arrayKey => "unhashable type: 'list'"
  | .objectKey => "unhashable type: 'dict'"
  | .readOnly => "'mappingproxy' object does not support item assignment"

namespace Registry

/-- The contract of the type that a value names. -/
def lookup (r : Registry) (v : Value) : Except LookupError (Option Contract) :=
  match v.opened with
  | .str type => .ok (r.get? type)
  | .arr _ => .error .arrayKey
  | .obj _ => .error .objectKey
  | _ => .ok none

/-- Whether a value names a known type. -/
def knows (r : Registry) (v : Value) : Except LookupError Bool :=
  (r.lookup v).map Option.isSome

/-- Writing an entry in place, which a registry never lets happen. -/
def assign (_ : Registry) (_ : Value) : Except LookupError Registry :=
  .error .readOnly

end Registry

end WorkflowCheck
