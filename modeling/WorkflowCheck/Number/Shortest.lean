import WorkflowCheck.Number.Double

/-!
# The shortest decimal text of a double

`Double.shortest` finds the fewest decimal digits that read back as the same double, by trying the
two neighbours of the value on the decimal grids of 1, 2, … 17 digits.  `Double.text` lays the digits
out: positionally while the leading digit stands between the fourth place after the point and the
sixteenth before it, and with an exponent of at least two digits outside that.
-/

namespace WorkflowCheck.Double

/-! ### Digits -/

/-- The decimal exponent of the leading digit of `units > 0`: the `k` with
`10 ^ k ≤ value < 10 ^ (k + 1)`, found by stepping from an estimate that is at most two off. -/
def leadingExponent (units : Nat) : Int :=
  let estimate : Int := ((units.log2 : Int) - 1074) * 30103 / 100000
  let reaches (k : Int) : Bool :=
    if 0 ≤ k then decide (tenTo k.toNat * unitsPerOne ≤ units)
    else decide (unitsPerOne ≤ units * tenTo (-k).toNat)
  if reaches (estimate + 2) then estimate + 2
  else if reaches (estimate + 1) then estimate + 1
  else if reaches estimate then estimate
  else if reaches (estimate - 1) then estimate - 1
  else estimate - 2

/-- The exact value of `units` counted in steps of `10 ^ grid`, as a quotient. -/
def onGrid (units : Nat) (grid : Int) : Nat × Nat :=
  if 0 ≤ grid then (units, unitsPerOne * tenTo grid.toNat)
  else (units * tenTo (-grid).toNat, unitsPerOne)

/-- Of the two neighbours of `units` on a decimal grid, the nearest one that reads back; of two
equally near ones the even one. -/
def neighbour? (units : Nat) (grid : Int) : Option Nat :=
  let (num, den) := onGrid units grid
  let readsBack (digits : Nat) : Bool := ofDecimal false digits grid == finite false units
  let low := num / den
  let near := roundHalfEven num den
  let far := if near = low then low + 1 else low
  if readsBack near then some near
  else if readsBack far then some far
  else none

/-- The first of `count` ever finer grids on which a neighbour of `units` reads back. -/
def search (units : Nat) : Nat → Int → Nat × Int
  | 0, grid => (roundHalfEven (onGrid units grid).1 (onGrid units grid).2, grid)
  | count + 1, grid =>
    match neighbour? units grid with
    | some digits => (digits, grid)
    | none => search units count (grid - 1)

/-- The fewest digits that read back as `units`, and the power of ten of the last one. -/
def shortest (units : Nat) : Nat × Int :=
  if units = 0 then (0, 0) else search units 16 (leadingExponent units)

/-! ### Layout -/

/-- The digits without the zeros at their end; at least one digit stays. -/
def trimZeros (digits : List Char) : List Char :=
  match (digits.reverse.dropWhile (· == '0')).reverse with
  | [] => ['0']
  | kept => kept

/-- Digits with a point before position `point`, filled up with zeros on either side and with at
least one digit on both. -/
def positional (digits : List Char) (point : Int) : List Char :=
  if point ≤ 0 then
    ['0', '.'] ++ List.replicate (-point).toNat '0' ++ digits
  else if digits.length ≤ point.toNat then
    digits ++ List.replicate (point.toNat - digits.length) '0' ++ ['.', '0']
  else
    digits.take point.toNat ++ '.' :: digits.drop point.toNat

/-- An exponent with its sign and at least two digits. -/
def exponentText (exponent : Int) : List Char :=
  let size := Nat.toDigits 10 exponent.natAbs
  (if exponent < 0 then '-' else '+') :: (if size.length < 2 then '0' :: size else size)

/-- Digits with a point after the first one if more follow, and an exponent. -/
def exponential (digits : List Char) (exponent : Int) : List Char :=
  (match digits with
    | [] => []
    | [d] => [d]
    | d :: rest => d :: '.' :: rest) ++ 'e' :: exponentText exponent

/-- The magnitude of a finite number as text. -/
def magnitudeText (units : Nat) : List Char :=
  let (digits, grid) := shortest units
  let all := Nat.toDigits 10 digits
  let leading : Int := grid + all.length - 1
  if -4 ≤ leading ∧ leading < 16 then positional (trimZeros all) (leading + 1)
  else exponential (trimZeros all) leading

/-- The shortest text that reads back as the same double. -/
def text : Double → String
  | .nan _ => "nan"
  | .infinite negative => if negative then "-inf" else "inf"
  | .finite negative units =>
    String.ofList ((if negative then ['-'] else []) ++ magnitudeText units)

end WorkflowCheck.Double
