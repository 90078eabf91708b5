import WorkflowCheck.Value.Basic

/-!
# Sameness of values

Two values are the same when they hold the same data: numbers by their exact value, whichever way
they are written (`1`, `1.0` and `true` are the same, `0.0` and `-0.0` too), arrays item by item, and objects
field by field without regard to order, under keys that are the same.  A NaN is the same as the NaNs of its
name; one without a name is the same as nothing.
-/

namespace WorkflowCheck

/-- The exact value of a number. -/
inductive Quantity where
  | nan (name : Option Nat)
  | infinite (negative : Bool)
  | units (count : Int)
  deriving DecidableEq, Repr

namespace Quantity

/-- An integer as a quantity. -/
def ofInt (i : Int) : Quantity :=
  .units (i * Double.unitsPerOne)

/-- A double as a quantity. -/
def ofDouble : Double → Quantity
  | .nan name => .nan name
  | .infinite negative => .infinite negative
  | .finite negative count => .units (Double.signed negative count)

/-- Equality of quantities, which a NaN without a name has with none. -/
def same : Quantity → Quantity → Bool
  | .nan none, _ => false
  | a, b => decide (a = b)

end Quantity

namespace Value

/-- The quantity that a number or a truth value stands for. -/
def quantity? : Value → Option Quantity
  | .bool b => some (.ofInt (if b then 1 else 0))
  | .int i => some (.ofInt i)
  | .float d => some (.ofDouble d)
  | _ => none

/-- Sameness of two values that are neither arrays nor objects. -/
def sameScalar : Value → Value → Bool
  | .null, .null => true
  | .str s, .str t => s == t
  | .moment m, .moment n => m.same n
  | .bytes bs, .bytes cs => bs == cs
  | a, b =>
    match a.quantity?, b.quantity? with
    | some x, some y => x.same y
    | _, _ => false

end Value

/-- Whether two keys are the same values. -/
def Key.same (a b : Key) : Bool :=
  a.toValue.sameScalar b.toValue

namespace Value

/-- What the first field holds whose key is the same as one. -/
def fieldLike? (k : Key) (fields : List (Key × Value)) : Option Value :=
  (fields.find? fun f => f.1.same k).map (·.2)

/-- Whether each of two lists of different keys has the keys of the other. -/
def sameMembers (ks ls : List Key) : Bool :=
  ks.length == ls.length && ks.all fun k => ls.any k.same

mutual

/-- Whether two values hold the same data. -/
def same : Value → Value → Bool
  | .arr xs, .arr ys => sameItems xs ys
  | .obj fs, .obj gs => fs.length == gs.length && sameFields fs gs
  | .pair a b, .pair c d => same a c && same b d
  | .set ks, .set ls => sameMembers ks ls
  | a, b => sameScalar a b

/-- Whether two lists hold the same data, place by place. -/
def sameItems : List Value → List Value → Bool
  | [], [] => true
  | x :: xs, y :: ys => same x y && sameItems xs ys
  | _, _ => false

/-- Whether each of the first fields has its like among the second ones. -/
def sameFields : List (Key × Value) → List (Key × Value) → Bool
  | [], _ => true
  | (k, x) :: fs, gs =>
    (match fieldLike? k gs with
      | some y => same x y
      | none => false) && sameFields fs gs

end

end Value

end WorkflowCheck
