/-!
# Fractions and their binary rounding

Sizes such as `1.5Gi` are computed in binary floating point with a significand of 53 bits. The
numbers that occur are never negative and never near the ends of the exponent range, so a value is
kept as an exact fraction and `nearest` says what rounding makes of it.

* **`Fraction`** — `num / den` with a positive denominator;
* **`roundDiv`** — the whole number nearest to a quotient, a tie going to the even one;
* **`Fraction.nearest`** — the nearest fraction whose significand has at most 53 bits;
* **`Fraction.floor`** — the whole part.
-/

namespace DeviceQuota

/-- A fraction that is not negative. -/
structure Fraction where
  num : Nat
  den : Nat
  den_pos : 0 < den

/-- The whole number nearest to `num / den`; of two that are equally near, the even one. -/
def roundDiv (num den : Nat) : Nat :=
  let quotient := num / den
  let twice := 2 * (num % den)
  if twice < den then quotient
  else if den < twice then quotient + 1
  else quotient + quotient % 2

/-- Rounding moves a quotient by half a unit at most. -/
theorem roundDiv_bounds {den : Nat} (num : Nat) (h : 0 < den) :
    2 * (roundDiv num den * den) ≤ 2 * num + den ∧
      2 * num ≤ 2 * (roundDiv num den * den) + den := by
  have split_num : num = den * (num / den) + num % den := (Nat.div_add_mod num den).symm
  have below : num % den < den := Nat.mod_lt num h
  unfold roundDiv
  generalize hq : num / den = q at *
  generalize hr : num % den = r at *
  rw [Nat.mul_comm den q] at split_num
  simp only
  split
  · omega
  · split
    · rw [Nat.add_mul]
      omega
    · rcases Nat.mod_two_eq_zero_or_one q with even | odd
      · rw [even, Nat.add_zero]
        omega
      · rw [odd, Nat.add_mul]
        omega

namespace Fraction

/-- A whole number. -/
def ofNat (n : Nat) : Fraction := ⟨n, 1, Nat.one_pos⟩

/-- The decimal quantity `mantissa · 10 ^ power`. -/
def ofDecimal (mantissa : Nat) (power : Int) : Fraction :=
  ⟨mantissa * Nat.pow 10 power.toNat, Nat.pow 10 (-power).toNat, Nat.pow_pos (by decide)⟩

/-- `x` times the whole number `n`. -/
def mulNat (x : Fraction) (n : Nat) : Fraction := ⟨x.num * n, x.den, x.den_pos⟩

/-- The whole part of `x`. -/
def floor (x : Fraction) : Nat := x.num / x.den

/-- `x` with its significand rounded to 53 bits, a tie going to the even significand. The
numerator is first shifted so far to the left that the quotient has more than 53 bits; all but 53
of them are then dropped by rounding. -/
def nearest (x : Fraction) : Fraction :=
  let shift := x.den.log2 + 54
  let dropped := ((x.num <<< shift) / x.den).log2 - 52
  { num := roundDiv (x.num <<< shift) (x.den <<< dropped) <<< dropped
    den := 1 <<< shift
    den_pos := by
      rw [Nat.shiftLeft_eq, Nat.one_mul]
      exact Nat.pow_pos (by decide) }

@[simp] theorem floor_ofNat (n : Nat) : (ofNat n).floor = n := by simp [ofNat, floor]

@[simp] theorem num_mulNat (x : Fraction) (n : Nat) : (x.mulNat n).num = x.num * n := rfl

@[simp] theorem den_mulNat (x : Fraction) (n : Nat) : (x.mulNat n).den = x.den := rfl

end Fraction

end DeviceQuota
