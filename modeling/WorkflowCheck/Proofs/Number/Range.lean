import Mathlib.Tactic.Ring
import Mathlib.Tactic.Linarith
import WorkflowCheck.Number.Double

/-!
# Integers that fit a double

The largest double is `(2 ^ 53 - 1) * 2 ^ 971`, and the next number with a significand of 53 bits would be
`2 ^ 1024`.  An integer is past the largest double when it is rounded up to that number, so from the
midpoint of the two on, `2 ^ 1024 - 2 ^ 970`: the midpoint itself is a tie, and the even neighbour is
the one that there is not.
-/

namespace WorkflowCheck.Double

/-- The least size of an integer that is past the largest double. -/
def leastOversized : Nat :=
  2 ^ 1024 - 2 ^ 970

/-! ### Rounding a quotient -/

/-- Rounding stays at or below `k` up to the midpoint behind `k`, and at the midpoint if `k` is even. -/
theorem roundHalfEven_le_iff (num k : Nat) {den : Nat} (hden : 0 < den) :
    roundHalfEven num den ≤ k ↔
      2 * num < (2 * k + 1) * den ∨ 2 * num = (2 * k + 1) * den ∧ k % 2 = 0 := by
  have hsplit : num = den * (num / den) + num % den := (Nat.div_add_mod num den).symm
  have hrest : num % den < den := Nat.mod_lt num hden
  unfold roundHalfEven
  generalize num / den = q at *
  generalize num % den = r at *
  subst hsplit
  have hbelow : q < k → den * q + den ≤ den * k := fun h => by
    have := Nat.mul_le_mul_left den h
    rwa [Nat.mul_succ] at this
  have habove : k < q → den * k + den ≤ den * q := fun h => by
    have := Nat.mul_le_mul_left den h
    rwa [Nat.mul_succ] at this
  have hmid : (2 * k + 1) * den = 2 * (den * k) + den := by ring
  rw [hmid, Nat.mul_add]
  dsimp only
  rcases Nat.lt_trichotomy q k with h | rfl | h
  · have hb := hbelow h
    split_ifs <;> omega
  · split_ifs <;> omega
  · have ha := habove h
    split_ifs <;> omega

theorem roundHalfEven_one (num : Nat) : roundHalfEven num 1 = num := by
  simp [roundHalfEven, Nat.mod_one]

/-! ### Rounding to a double -/

theorem twoTo_eq (n : Nat) : twoTo n = 2 ^ n := rfl

theorem twoTo_pos (n : Nat) : 0 < twoTo n :=
  Nat.two_pow_pos n

/-- The units of a number that has more than 53 bits, by the place of its first bit. -/
theorem nearestUnits_of_log2 {num e : Nat} (hlog : num.log2 = e + 53) :
    nearestUnits num 1 = roundHalfEven num (2 ^ (e + 1)) * 2 ^ (e + 1) := by
  have hne : num ≠ 0 := by
    rintro rfl
    rw [Nat.log2_zero] at hlog
    omega
  have hlarge : ¬ num < 2 ^ 53 := by
    rw [← Nat.log2_lt hne, hlog]
    omega
  have hstep : e + 53 - 52 = e + 1 := by omega
  simp only [nearestUnits, Nat.div_one, twoTo_eq, if_neg hlarge, hlog, Nat.one_mul, hstep]

/-- Rounding stays at or below the odd significand of only ones up to the midpoint behind it. -/
theorem nearestUnits_le_iff (num k : Nat) :
    nearestUnits num 1 ≤ (2 ^ 53 - 1) * 2 ^ (k + 1) ↔ num < (2 ^ 54 - 1) * 2 ^ k := by
  have hdouble : 2 ^ (k + 1) = 2 * 2 ^ k := by rw [Nat.pow_succ, Nat.mul_comm]
  have hpos : 0 < 2 ^ k := Nat.two_pow_pos k
  by_cases hsmall : num < 2 ^ 53
  · have hunits : nearestUnits num 1 = num := by
      simp only [nearestUnits, Nat.div_one, twoTo_eq, if_pos hsmall, roundHalfEven_one]
    rw [hunits, hdouble]
    generalize 2 ^ k = p at *
    omega
  · have hne : num ≠ 0 := by
      rintro rfl
      omega
    have hlog : 53 ≤ num.log2 := by
      rw [Nat.le_log2 hne]
      omega
    obtain ⟨e, he⟩ := Nat.exists_eq_add_of_le' hlog
    have hlow : 2 ^ 52 * 2 ^ (e + 1) ≤ num := by
      rw [← Nat.pow_add, show 52 + (e + 1) = e + 53 by omega, ← he]
      exact Nat.log2_self_le hne
    have hhigh : num < 2 ^ 53 * 2 ^ (e + 1) := by
      rw [← Nat.pow_add, show 53 + (e + 1) = (e + 53) + 1 by omega, ← he]
      exact Nat.lt_log2_self
    rw [nearestUnits_of_log2 he]
    have hround := fun m => roundHalfEven_le_iff num m (Nat.two_pow_pos (e + 1))
    rcases Nat.lt_trichotomy e k with h | rfl | h
    · -- far below: even the next power of two is small enough
      have hle : 2 ^ (e + 1) ≤ 2 ^ k := Nat.pow_le_pow_right (by omega) h
      have hr := (hround (2 ^ 53)).mpr (Or.inl (by omega))
      have hprod := Nat.mul_le_mul hr hle
      rw [hdouble]
      generalize 2 ^ k = p at *
      omega
    · -- the same step: the last significand is odd, so the midpoint goes up
      rw [Nat.mul_le_mul_right_iff (Nat.two_pow_pos _), hround, hdouble]
      generalize 2 ^ e = p at *
      omega
    · -- far above: rounding down does not help
      have hle : 2 ^ (k + 2) ≤ 2 ^ (e + 1) := Nat.pow_le_pow_right (by omega) (by omega)
      have hfour : 2 ^ (k + 2) = 4 * 2 ^ k := by rw [Nat.pow_add, Nat.mul_comm]
      have hr : ¬ roundHalfEven num (2 ^ (e + 1)) ≤ 2 ^ 52 - 1 := by
        rw [hround]
        omega
      have hprod := Nat.mul_le_mul (Nat.lt_of_not_le hr) hle
      rw [hfour] at hle hprod
      rw [hdouble]
      generalize 2 ^ k = p at *
      omega

theorem ofUnits_of_le {num den : Nat} (negative : Bool) (h : nearestUnits num den ≤ maxUnits) :
    ofUnits negative num den = finite negative (nearestUnits num den) :=
  if_pos h

theorem ofUnits_of_not_le {num den : Nat} (negative : Bool) (h : ¬ nearestUnits num den ≤ maxUnits) :
    ofUnits negative num den = infinite negative :=
  if_neg h

theorem isSome_ofInt?_iff_nearestUnits (i : Int) :
    (ofInt? i).isSome = true ↔ nearestUnits (i.natAbs * unitsPerOne) 1 ≤ maxUnits := by
  rw [ofInt?]
  generalize i.natAbs * unitsPerOne = units
  by_cases h : nearestUnits units 1 ≤ maxUnits
  · rw [ofUnits_of_le _ h]
    exact iff_of_true rfl h
  · rw [ofUnits_of_not_le _ h]
    exact iff_of_false Bool.false_ne_true h

theorem midpoint_mul (n a b : Nat) : (2 ^ (a + n) - 2 ^ a) * 2 ^ b = (2 ^ n - 1) * 2 ^ (a + b) := by
  rw [Nat.pow_add 2 a n, Nat.pow_add 2 a b, ← Nat.mul_assoc, Nat.mul_comm (2 ^ n - 1), Nat.mul_sub,
    Nat.mul_one]

/-- An integer fits a double when it is smaller than the midpoint behind the largest one. -/
theorem isSome_ofInt?_iff (i : Int) : (ofInt? i).isSome = true ↔ i.natAbs < leastOversized := by
  have hmax : maxUnits = (2 ^ 53 - 1) * 2 ^ (2044 + 1) := by
    rw [maxUnits, twoTo_eq, twoTo_eq, show 2045 = 2044 + 1 from rfl]
  have hmid : leastOversized * unitsPerOne = (2 ^ 54 - 1) * 2 ^ (970 + 1074) := by
    rw [leastOversized, unitsPerOne, twoTo_eq, show 1024 = 970 + 54 from rfl, midpoint_mul]
  have hone : 0 < unitsPerOne := twoTo_pos 1074
  rw [isSome_ofInt?_iff_nearestUnits, hmax, nearestUnits_le_iff, show 2044 = 970 + 1074 from rfl, ← hmid]
  exact Nat.mul_lt_mul_right hone

end WorkflowCheck.Double
