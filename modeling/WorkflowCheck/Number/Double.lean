/-!
# Double precision numbers, exactly

A finite double is an integer multiple of the smallest subnormal `2 ^ (-1074)`, so it is kept as a
sign and that multiple, its *units*.  Order and equality are then order and equality of integers,
and every operation is exact integer arithmetic followed by one rounding: to the nearest multiple
with a 53-bit significand, a tie going to the even one, and to an infinity past the largest double.
-/

namespace WorkflowCheck

/-- A double precision number.  The two zeros are different values.  A NaN may bear a name, which tells
where it came from; it stays with the NaN but is no part of its text. -/
inductive Double where
  | nan (name : Option Nat)
  | infinite (negative : Bool)
  | finite (negative : Bool) (units : Nat)
  deriving DecidableEq, Repr, Inhabited

namespace Double

/-! ### Names of NaNs -/

/-- The NaN that stands for itself in a text, which is the same one every time. -/
def writtenNan : Double :=
  .nan (some 0)

/-- The number with a name if it is a NaN without one. -/
def named (name : Nat) : Double → Double
  | .nan none => .nan (some name)
  | d => d

/-! ### Powers -/

/-- A power of two. -/
def twoTo (n : Nat) : Nat :=
  Nat.pow 2 n

/-- A power of ten. -/
def tenTo (n : Nat) : Nat :=
  Nat.pow 10 n

/-! ### Rounding -/

/-- The number of units in one. -/
def unitsPerOne : Nat :=
  twoTo 1074

/-- The units of the largest finite double. -/
def maxUnits : Nat :=
  (twoTo 53 - 1) * twoTo 2045

/-- The integer nearest to `num / den`, a tie going to the even neighbour. -/
def roundHalfEven (num den : Nat) : Nat :=
  let q := num / den
  let twice := 2 * (num % den)
  if twice < den then q
  else if den < twice then q + 1
  else q + q % 2

/-- `num / den` units rounded to a multiple with a 53-bit significand. -/
def nearestUnits (num den : Nat) : Nat :=
  let whole := num / den
  if whole < twoTo 53 then roundHalfEven num den
  else
    let step := twoTo (whole.log2 - 52)
    roundHalfEven num (den * step) * step

/-- The double nearest to `num / den` units, an infinity if that is past the largest one. -/
def ofUnits (negative : Bool) (num den : Nat) : Double :=
  let units := nearestUnits num den
  if units ≤ maxUnits then finite negative units else infinite negative

/-- The double nearest to the quotient of two natural numbers. -/
def ofRatio (num den : Nat) : Double :=
  ofUnits false (num * unitsPerOne) den

/-- The number, none when it is an infinity or a NaN. -/
def finite? : Double → Option Double
  | .finite negative units => some (.finite negative units)
  | _ => none

/-- The double nearest to an integer, none when the integer is past the largest double. -/
def ofInt? (i : Int) : Option Double :=
  (ofUnits (decide (i < 0)) (i.natAbs * unitsPerOne) 1).finite?

/-- The double nearest to `digits * 10 ^ exponent`.  Exponents so far out that the answer is a zero
or an infinity are settled from the number of digits alone. -/
def ofDecimal (negative : Bool) (digits : Nat) (exponent : Int) : Double :=
  let size : Int := exponent + (Nat.toDigits 10 digits).length
  if digits = 0 ∨ size < -400 then finite negative 0
  else if 400 < size then infinite negative
  else if 0 ≤ exponent then ofUnits negative (digits * tenTo exponent.toNat * unitsPerOne) 1
  else ofUnits negative (digits * unitsPerOne) (tenTo (-exponent).toNat)

/-! ### Arithmetic and order -/

/-- The signed units of a finite number. -/
def signed (negative : Bool) (units : Nat) : Int :=
  if negative then -(units : Int) else units

/-- The rounded sum.  An exact zero is negative only when both terms are. -/
def add : Double → Double → Double
  | .nan _, _ => .nan none
  | _, .nan _ => .nan none
  | .infinite a, .infinite b => if a = b then .infinite a else .nan none
  | .infinite a, .finite _ _ => .infinite a
  | .finite _ _, .infinite b => .infinite b
  | .finite a m, .finite b n =>
    let sum := signed a m + signed b n
    if sum = 0 then .finite (a && b) 0
    else ofUnits (decide (sum < 0)) sum.natAbs 1

instance : Add Double := ⟨add⟩

/-- The rounded product. -/
def mul : Double → Double → Double
  | .nan _, _ => .nan none
  | _, .nan _ => .nan none
  | .infinite a, .infinite b => .infinite (a != b)
  | .infinite a, .finite b n => if n = 0 then .nan none else .infinite (a != b)
  | .finite a m, .infinite b => if m = 0 then .nan none else .infinite (a != b)
  | .finite a m, .finite b n => ofUnits (a != b) (m * n) unitsPerOne

/-- The number of the other sign; a NaN has none. -/
def neg : Double → Double
  | .nan name => .nan name
  | .infinite negative => .infinite !negative
  | .finite negative units => .finite (!negative) units

/-- Whether the first number is below the second; never so when one of them is a NaN. -/
def below : Double → Double → Bool
  | .nan _, _ => false
  | _, .nan _ => false
  | .infinite a, .infinite b => a && !b
  | .infinite a, .finite _ _ => a
  | .finite _ _, .infinite b => !b
  | .finite a m, .finite b n => decide (signed a m < signed b n)

/-- Equality of the values: the two zeros are equal and a NaN equals nothing. -/
def same : Double → Double → Bool
  | .finite a m, .finite b n => decide (signed a m = signed b n)
  | .infinite a, .infinite b => a == b
  | _, _ => false

/-- The integer that a number without a fraction is. -/
def toInt? : Double → Option Int
  | .finite negative units =>
    if units % unitsPerOne = 0 then some (signed negative (units / unitsPerOne)) else none
  | _ => none

/-- The number rounded to a count of decimal places, a tie of the exact value going to the even
digit. -/
def roundPlaces (places : Nat) : Double → Double
  | .finite negative units =>
    ofDecimal negative (roundHalfEven (units * tenTo places) unitsPerOne) (-(places : Int))
  | d => d

end Double

end WorkflowCheck
