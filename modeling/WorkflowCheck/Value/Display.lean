import WorkflowCheck.Number.Shortest
import WorkflowCheck.Text.Quoted
import WorkflowCheck.Value.Basic

/-!
# Values in messages

A message names a value that is not what it should be.  A string stands there as it is; inside an
array or an object strings are quoted.  Where an array or object holds itself, three dots stand
between its brackets.

An integer of very many digits is not shown: `Value.isShowable` tells whether a value holds none.
-/

namespace WorkflowCheck

/-- A truth value as a message shows it. -/
def displayBool (b : Bool) : String :=
  if b then "True" else "False"

/-- A key as a message shows it. -/
def Key.display : Key → String
  | .null => "None"
  | .bool b => displayBool b
  | .int i => toString i
  | .float d => d.text
  | .str s => Text.quoted s
  | .moment m => m.partsText
  | .bytes bs => Text.quotedBytes bs

namespace Value

/-- The members of a set in the order in which they are shown: integers by size, others as they
stand. -/
def shownMembers (members : List Key) : List Key :=
  let sizes : List (Option Int) := members.map fun k => match k with | .int i => some i | _ => none
  if sizes.all Option.isSome then (sizes.filterMap id).mergeSort.map Key.int else members

/-- Whether a value that is shown as part of itself is an array. -/
def isShownAsArray : Value → Bool
  | .obj _ => false
  | _ => true

/-- What stands for an array or an object inside itself. -/
def dots (isArray : Bool) : String :=
  if isArray then "[...]" else "\x7b...\x7d"

mutual

/-- A value inside others, of which the loops around it are given with whether they are arrays. -/
def displayWithin (around : List (Nat × Bool)) : Value → String
  | .null => "None"
  | .bool b => displayBool b
  | .int i => toString i
  | .float d => d.text
  | .str s => Text.quoted s
  | .moment m => m.partsText
  | .bytes bs => Text.quotedBytes bs
  | .arr xs => "[" ++ ", ".intercalate (displayItems around xs) ++ "]"
  | .obj fields => "\x7b" ++ ", ".intercalate (displayFields around fields) ++ "\x7d"
  | .set [] => "set()"
  | .set members => "\x7b" ++ ", ".intercalate ((shownMembers members).map Key.display) ++ "\x7d"
  | .pair a b => "(" ++ displayWithin around a ++ ", " ++ displayWithin around b ++ ")"
  | .loop mark body =>
    match around.lookup mark with
    | some isArray => dots isArray
    | none => displayWithin ((mark, body.isShownAsArray) :: around) body
  | .again mark => dots ((around.lookup mark).getD true)

/-- The items of an array. -/
def displayItems (around : List (Nat × Bool)) : List Value → List String
  | [] => []
  | x :: xs => displayWithin around x :: displayItems around xs

/-- The fields of an object. -/
def displayFields (around : List (Nat × Bool)) : List (Key × Value) → List String
  | [] => []
  | (k, x) :: fs => (k.display ++ ": " ++ displayWithin around x) :: displayFields around fs

end

/-- A value as it is shown inside another one. -/
def displayInner (v : Value) : String :=
  displayWithin [] v

/-- A value as a message shows it. -/
def display : Value → String
  | .str s => s
  | .moment m => m.text
  | v => v.displayInner

end Value

/-! ### Integers of very many digits -/

/-- The most digits that a shown integer has. -/
def shownDigits : Nat :=
  4300

/-- Whether an integer has no more digits than are shown. -/
def isShowableInt (i : Int) : Bool :=
  decide (i.natAbs < Double.tenTo shownDigits)

/-- Whether a key holds no integer of too many digits. -/
def Key.isShowable : Key → Bool
  | .int i => isShowableInt i
  | _ => true

namespace Value

mutual

/-- Whether a value holds no integer of too many digits. -/
def isShowable : Value → Bool
  | .int i => isShowableInt i
  | .arr xs => itemsShowable xs
  | .obj fields => fieldsShowable fields
  | .set members => members.all Key.isShowable
  | .pair a b => isShowable a && isShowable b
  | .loop _ body => isShowable body
  | _ => true

/-- Whether no item holds an integer of too many digits. -/
def itemsShowable : List Value → Bool
  | [] => true
  | x :: xs => isShowable x && itemsShowable xs

/-- Whether no field holds an integer of too many digits. -/
def fieldsShowable : List (Key × Value) → Bool
  | [] => true
  | (k, x) :: fs => k.isShowable && isShowable x && fieldsShowable fs

end

end Value

end WorkflowCheck
