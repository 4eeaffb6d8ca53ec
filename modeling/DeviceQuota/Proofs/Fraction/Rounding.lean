import DeviceQuota.Fraction
import Mathlib.Algebra.Order.Field.Power
import Mathlib.Algebra.Order.Field.Rat
import Mathlib.Algebra.Order.Floor.Semifield
import Mathlib.Data.Rat.Floor
import Mathlib.Tactic.FieldSimp
import Mathlib.Tactic.Linarith
import Mathlib.Tactic.NormNum
import Mathlib.Tactic.Positivity
import Mathlib.Tactic.Ring

/-!
# Rounding to the nearest binary number

A binary floating-point number is a whole significand times a power of two. Sizes stay far away from
the ends of the exponent range, so a number is told by the length of its significand alone, and
rounding is told by three conditions: the result is a number with 53 bits, none of them is nearer, and
of two that are equally near it is the one that 52 bits are enough for.

All that is used of rounding follows from these conditions: it passes over no number of 53 bits, it
leaves such a number alone, and it moves any other by less than one part in 2^53.

* **`IsBinary`** — a number with a significand of so many bits;
* **`RoundsTo`** — to the nearest number with 53 bits, a tie to the even significand;
* **`Fraction.roundsTo_nearest`** — rounding by shifts does this;
* **`RoundsTo.le_of_le`**, **`RoundsTo.ge_of_ge`**, **`RoundsTo.eq_self`**,
  **`RoundsTo.le_of_lt`**, **`RoundsTo.abs_sub_le`** — what follows from it.
-/

namespace DeviceQuota

/-! ### Whole quotients -/

theorem abs_roundDiv_sub_le (num : ℕ) {den : ℕ} (hden : 0 < den) :
    |(roundDiv num den : ℚ) - num / den| ≤ 1 / 2 := by
  obtain ⟨hupper, hlower⟩ := roundDiv_bounds num hden
  have hpos : (0 : ℚ) < den := by exact_mod_cast hden
  have hupper' : 2 * ((roundDiv num den : ℚ) * den) ≤ 2 * num + den := by exact_mod_cast hupper
  have hlower' : 2 * (num : ℚ) ≤ 2 * (roundDiv num den * den) + den := by exact_mod_cast hlower
  have hquotient : (num : ℚ) / den * den = num := div_mul_cancel₀ _ hpos.ne'
  rw [abs_le]
  constructor
  · refine le_of_mul_le_mul_right ?_ hpos
    linarith
  · refine le_of_mul_le_mul_right ?_ hpos
    linarith

/-- A quotient in the middle between two whole numbers is rounded to the even one. -/
theorem two_dvd_roundDiv {num den : ℕ} (hden : 0 < den)
    (htie : |(roundDiv num den : ℚ) - num / den| = 1 / 2) : 2 ∣ roundDiv num den := by
  have hpos : (0 : ℚ) < den := by exact_mod_cast hden
  have hquotient : (num : ℚ) / den * den = num := div_mul_cancel₀ _ hpos.ne'
  have hscaled : |(roundDiv num den : ℚ) * den - num| = den / 2 := by
    rw [← hquotient, ← sub_mul, abs_mul, htie, abs_of_pos hpos]
    ring
  have hsplit : den * (num / den) + num % den = num := Nat.div_add_mod num den
  have hbelow : num % den < den := Nat.mod_lt num hden
  have hsides : 2 * (roundDiv num den * den) = 2 * num + den ∨
      2 * num = 2 * (roundDiv num den * den) + den := by
    rcases abs_cases ((roundDiv num den : ℚ) * den - num) with ⟨habs, -⟩ | ⟨habs, -⟩
    · left
      have h : 2 * ((roundDiv num den : ℚ) * den) = 2 * num + den := by linarith
      exact_mod_cast h
    · right
      have h : 2 * (num : ℚ) = 2 * (roundDiv num den * den) + den := by linarith
      exact_mod_cast h
  unfold roundDiv at hsides ⊢
  generalize num / den = q at *
  generalize num % den = r at *
  rw [Nat.mul_comm den q] at hsplit
  rcases lt_trichotomy (2 * r) den with hless | htied | hmore
  · simp only [if_pos hless] at hsides
    omega
  · simp only [htied, lt_irrefl, if_false]
    omega
  · simp only [if_neg hmore.not_gt, if_pos hmore, Nat.add_mul] at hsides
    omega

/-! ### Binary numbers -/

/-- A number with a significand of `bits` bits. -/
def IsBinary (bits : ℕ) (y : ℚ) : Prop := ∃ (k : ℕ) (e : ℤ), k ≤ 2 ^ bits ∧ y = k * 2 ^ e

/-- `y` is `x` rounded to a significand of 53 bits: none is nearer to `x`, and where another one is
equally near, the significand of `y` is even. -/
structure RoundsTo (x y : ℚ) : Prop where
  isBinary : IsBinary 53 y
  nearest : ∀ z, IsBinary 53 z → |y - x| ≤ |z - x|
  even : ∀ z, IsBinary 53 z → |y - x| = |z - x| → z = y ∨ IsBinary 52 y

variable {bits : ℕ} {x y z : ℚ}

theorem isBinary_natCast {n : ℕ} (h : n ≤ 2 ^ bits) : IsBinary bits n :=
  ⟨n, 0, h, by simp⟩

theorem isBinary_zero : IsBinary bits 0 := ⟨0, 0, Nat.zero_le _, by simp⟩

theorem isBinary_one : IsBinary bits 1 := ⟨1, 0, Nat.one_le_two_pow, by simp⟩

theorem IsBinary.mul_zpow (h : IsBinary bits y) (e : ℤ) : IsBinary bits (y * 2 ^ e) := by
  obtain ⟨k, d, hk, rfl⟩ := h
  exact ⟨k, d + e, hk, by rw [mul_assoc, ← zpow_add₀ two_ne_zero]⟩

theorem IsBinary.nonneg (h : IsBinary bits y) : 0 ≤ y := by
  obtain ⟨k, e, -, rfl⟩ := h
  positivity

/-- A number is whole, or all of its bits stand behind the first 52 places. -/
theorem IsBinary.whole_or_le (h : IsBinary 53 z) : (∃ j : ℕ, z = j) ∨ z ≤ 2 ^ 52 := by
  obtain ⟨k, e, hk, rfl⟩ := h
  rcases le_or_gt 0 e with hwhole | hfraction
  · left
    obtain ⟨j, rfl⟩ := Int.eq_ofNat_of_zero_le hwhole
    exact ⟨k * 2 ^ j, by simp⟩
  · right
    have hk' : (k : ℚ) ≤ 2 ^ 53 := by exact_mod_cast hk
    have hpower : (2 : ℚ) ^ e ≤ 2 ^ (-1 : ℤ) := zpow_le_zpow_right₀ one_le_two (by omega)
    calc (k : ℚ) * 2 ^ e ≤ 2 ^ 53 * 2 ^ (-1 : ℤ) := by gcongr
      _ = 2 ^ 52 := by norm_num

/-- Below one there is a gap. -/
theorem IsBinary.le_of_lt_one (h : IsBinary 53 z) (hz : z < 1) : z ≤ 1 - 1 / 2 ^ 53 := by
  obtain ⟨k, e, hk, rfl⟩ := h
  rcases lt_or_ge e (-53) with hsmall | hlarge
  · have hk' : (k : ℚ) ≤ 2 ^ 53 := by exact_mod_cast hk
    have hpower : (2 : ℚ) ^ e ≤ 2 ^ (-54 : ℤ) := zpow_le_zpow_right₀ one_le_two (by omega)
    calc (k : ℚ) * 2 ^ e ≤ 2 ^ 53 * 2 ^ (-54 : ℤ) := by gcongr
      _ ≤ 1 - 1 / 2 ^ 53 := by norm_num
  · -- In units of 2^-53 the number is whole.
    obtain ⟨j, hj⟩ := Int.eq_ofNat_of_zero_le (show 0 ≤ e + 53 by omega)
    have hunits : (k : ℚ) * 2 ^ e * 2 ^ 53 = (k * 2 ^ j : ℕ) := by
      have hpower : (2 : ℚ) ^ e * 2 ^ (53 : ℤ) = 2 ^ (j : ℤ) := by
        rw [← zpow_add₀ two_ne_zero, hj]
      rw [mul_assoc, show (2 : ℚ) ^ 53 = 2 ^ (53 : ℤ) from rfl, hpower, zpow_natCast]
      push_cast
      rfl
    have hlt : k * 2 ^ j < 2 ^ 53 := by
      have hbelow : ((k * 2 ^ j : ℕ) : ℚ) < (2 ^ 53 : ℕ) := by
        rw [← hunits]
        push_cast
        linarith
      exact_mod_cast hbelow
    have hle : ((k * 2 ^ j : ℕ) : ℚ) ≤ (2 ^ 53 - 1 : ℕ) := by exact_mod_cast Nat.le_sub_one_of_lt hlt
    rw [← hunits, Nat.cast_sub Nat.one_le_two_pow] at hle
    push_cast at hle
    linarith

/-! ### What rounding does -/

namespace RoundsTo

/-- Rounding goes down past no binary number. -/
theorem le_of_le (h : RoundsTo x y) (hz : IsBinary 53 z) (hzx : z ≤ x) : z ≤ y := by
  by_contra hlt
  rw [not_le] at hlt
  have hnearest := h.nearest z hz
  rw [abs_of_nonpos (by linarith), abs_of_nonpos (by linarith)] at hnearest
  linarith

/-- Rounding goes up past no binary number. -/
theorem ge_of_ge (h : RoundsTo x y) (hz : IsBinary 53 z) (hxz : x ≤ z) : y ≤ z := by
  by_contra hlt
  rw [not_le] at hlt
  have hnearest := h.nearest z hz
  rw [abs_of_nonneg (by linarith), abs_of_nonneg (by linarith)] at hnearest
  linarith

/-- A binary number is left alone. -/
theorem eq_self (h : RoundsTo x y) (hx : IsBinary 53 x) : y = x :=
  le_antisymm (h.ge_of_ge hx le_rfl) (h.le_of_le hx le_rfl)

theorem nonneg (h : RoundsTo x y) : 0 ≤ y := h.isBinary.nonneg

/-- What is smaller is not rounded to more. -/
theorem le_of_lt {x' y' : ℚ} (h : RoundsTo x y) (h' : RoundsTo x' y') (hlt : x < x') : y ≤ y' := by
  rcases le_or_gt x y' with habove | hbelow
  · exact h.ge_of_ge h'.isBinary habove
  · rcases le_or_gt y x' with hbelow' | habove'
    · exact h'.le_of_le h.isBinary hbelow'
    · -- Between `y'` and `y`, `x` is in the lower half and `x'` in the upper one.
      have hlower := (abs_le.1 (h.nearest y' h'.isBinary)).2
      have hupper := (abs_le.1 (h'.nearest y h.isBinary)).1
      rw [abs_of_neg (sub_neg.2 hbelow)] at hlower
      rw [abs_of_pos (sub_pos.2 habove')] at hupper
      linarith

/-- A result is scaled with its argument. -/
theorem mul_zpow (h : RoundsTo x y) (e : ℤ) : RoundsTo (x * 2 ^ e) (y * 2 ^ e) := by
  have hpos : (0 : ℚ) < 2 ^ e := by positivity
  have hscaled : ∀ z : ℚ, |z * 2 ^ e - x * 2 ^ e| = |z - x| * 2 ^ e := by
    intro z
    rw [← sub_mul, abs_mul, abs_of_pos hpos]
  have hunscaled : ∀ z : ℚ, z = z * 2 ^ (-e) * 2 ^ e := by
    intro z
    rw [mul_assoc, ← zpow_add₀ two_ne_zero, neg_add_cancel, zpow_zero, mul_one]
  refine ⟨h.isBinary.mul_zpow e, ?_, ?_⟩
  · intro z hz
    rw [hunscaled z, hscaled, hscaled]
    exact mul_le_mul_of_nonneg_right (h.nearest _ (hz.mul_zpow _)) hpos.le
  · intro z hz htie
    rw [hunscaled z, hscaled, hscaled] at htie
    rcases h.even _ (hz.mul_zpow _) (mul_right_cancel₀ hpos.ne' htie) with hsame | heven
    · left
      rw [← hsame, ← hunscaled]
    · exact .inr (heven.mul_zpow e)

/-- Another whole number is no nearer than half a unit. -/
theorem half_le_abs_sub {t : ℚ} {r j : ℕ} (hnear : |(r : ℚ) - t| ≤ 1 / 2) (hj : j ≠ r) :
    1 / 2 ≤ |(j : ℚ) - t| := by
  have hone : (1 : ℚ) ≤ |(j : ℚ) - r| := by
    have hint : (1 : ℤ) ≤ |(j : ℤ) - r| := Int.one_le_abs (by omega)
    exact_mod_cast hint
  have htriangle : |(j : ℚ) - r| ≤ |(j : ℚ) - t| + |(r : ℚ) - t| := by
    rw [abs_sub_comm (r : ℚ) t]
    exact abs_sub_le _ _ _
  linarith

/-- No whole number is nearer than one within half a unit. -/
theorem abs_sub_le_natCast {t : ℚ} {r : ℕ} (hnear : |(r : ℚ) - t| ≤ 1 / 2) (j : ℕ) :
    |(r : ℚ) - t| ≤ |(j : ℚ) - t| := by
  by_cases hj : j = r
  · rw [hj]
  · exact hnear.trans (half_le_abs_sub hnear hj)

/-- With 53 bits in front of the point, a number is rounded to a whole one. -/
theorem of_whole {t : ℚ} {r : ℕ} (hlow : 2 ^ 52 ≤ t) (hhigh : t < 2 ^ 53)
    (hnear : |(r : ℚ) - t| ≤ 1 / 2) (heven : |(r : ℚ) - t| = 1 / 2 → 2 ∣ r) : RoundsTo t r := by
  have hr : r ≤ 2 ^ 53 := by
    have habove := (abs_le.1 hnear).2
    have hlt : (r : ℚ) < (2 ^ 53 + 1 : ℕ) := by
      push_cast
      linarith
    exact Nat.le_of_lt_succ (by exact_mod_cast hlt)
  -- A number with bits behind the point is below 2^52, which is whole and on the same side of `t`.
  have hbelow : |(r : ℚ) - t| ≤ t - 2 ^ 52 := by
    have h := abs_sub_le_natCast hnear (2 ^ 52)
    rwa [abs_sub_comm ((2 ^ 52 : ℕ) : ℚ) t, Nat.cast_pow, Nat.cast_ofNat,
      abs_of_nonneg (sub_nonneg.2 hlow)] at h
  refine ⟨isBinary_natCast hr, ?_, ?_⟩
  · intro z hz
    rcases hz.whole_or_le with ⟨j, rfl⟩ | hsmall
    · exact abs_sub_le_natCast hnear j
    · rw [abs_sub_comm z t, abs_of_nonneg (show 0 ≤ t - z by linarith)]
      linarith
  · intro z hz htie
    have hz' : ∃ j : ℕ, z = j := by
      rcases hz.whole_or_le with hj | hsmall
      · exact hj
      · rw [abs_sub_comm z t, abs_of_nonneg (show 0 ≤ t - z by linarith)] at htie
        exact ⟨2 ^ 52, by push_cast; linarith⟩
    obtain ⟨j, rfl⟩ := hz'
    by_cases hj : j = r
    · exact .inl (by rw [hj])
    · have htie' : |(r : ℚ) - t| = 1 / 2 := le_antisymm hnear (htie ▸ half_le_abs_sub hnear hj)
      obtain ⟨half, rfl⟩ := heven htie'
      exact .inr ⟨half, 1, by omega, by push_cast; ring⟩

end RoundsTo

/-! ### Rounding by shifts -/

namespace Fraction

/-- The rational number that is meant. -/
def toRat (x : Fraction) : ℚ := x.num / x.den

theorem toRat_mulNat (x : Fraction) (n : ℕ) : (x.mulNat n).toRat = x.toRat * n := by
  simp only [toRat, num_mulNat, den_mulNat, Nat.cast_mul]
  ring

theorem toRat_ofNat (n : ℕ) : (ofNat n).toRat = n := by simp [toRat, ofNat]

theorem floor_eq (x : Fraction) : x.floor = ⌊x.toRat⌋₊ := by
  rw [toRat, Nat.floor_div_eq_div]
  rfl

/-- The shifts leave 53 bits in front of the point. -/
theorem shifted_bounds {num den : ℕ} (hnum : 0 < num) (hden : 0 < den) :
    let shift := den.log2 + 54
    let dropped := (num * 2 ^ shift / den).log2 - 52
    2 ^ 52 * (den * 2 ^ dropped) ≤ num * 2 ^ shift ∧
      num * 2 ^ shift < 2 ^ 53 * (den * 2 ^ dropped) := by
  intro shift dropped
  have hlarge : 2 ^ 53 ≤ num * 2 ^ shift / den := by
    rw [Nat.le_div_iff_mul_le hden]
    calc 2 ^ 53 * den ≤ 2 ^ 53 * 2 ^ (den.log2 + 1) :=
          Nat.mul_le_mul_left _ Nat.lt_log2_self.le
      _ = 2 ^ shift := by rw [← pow_add, show 53 + (den.log2 + 1) = shift by omega]
      _ ≤ num * 2 ^ shift := Nat.le_mul_of_pos_left _ hnum
  have hne : num * 2 ^ shift / den ≠ 0 := by
    have : 0 < 2 ^ 53 := by decide
    omega
  have hlog : (num * 2 ^ shift / den).log2 = dropped + 52 := by
    have := (Nat.le_log2 hne).2 hlarge
    omega
  constructor
  · have h := Nat.log2_self_le hne
    rw [hlog, Nat.le_div_iff_mul_le hden] at h
    calc 2 ^ 52 * (den * 2 ^ dropped) = 2 ^ (dropped + 52) * den := by ring
      _ ≤ num * 2 ^ shift := h
  · have h : num * 2 ^ shift / den < 2 ^ ((num * 2 ^ shift / den).log2 + 1) := Nat.lt_log2_self
    rw [hlog, Nat.div_lt_iff_lt_mul hden] at h
    calc num * 2 ^ shift < 2 ^ (dropped + 52 + 1) * den := h
      _ = 2 ^ 53 * (den * 2 ^ dropped) := by ring

/-- A positive fraction is a power of two times a number with 53 bits in front of the point, and what
is left of it by the shifts is the nearest whole number. -/
theorem exists_significand (x : Fraction) (hpos : 0 < x.num) :
    ∃ (t : ℚ) (r : ℕ) (e : ℤ), x.toRat = t * 2 ^ e ∧ x.nearest.toRat = r * 2 ^ e ∧
      2 ^ 52 ≤ t ∧ t < 2 ^ 53 ∧ |(r : ℚ) - t| ≤ 1 / 2 ∧ (|(r : ℚ) - t| = 1 / 2 → 2 ∣ r) := by
  have hden : 0 < x.den := x.den_pos
  obtain ⟨hlow, hhigh⟩ := shifted_bounds hpos hden
  set shift := x.den.log2 + 54 with hshift
  set dropped := (x.num * 2 ^ shift / x.den).log2 - 52 with hdropped
  have hscaled : 0 < x.den * 2 ^ dropped := by positivity
  have hscaled' : (0 : ℚ) < ((x.den * 2 ^ dropped : ℕ) : ℚ) := by exact_mod_cast hscaled
  refine ⟨((x.num * 2 ^ shift : ℕ) : ℚ) / ((x.den * 2 ^ dropped : ℕ) : ℚ),
    roundDiv (x.num * 2 ^ shift) (x.den * 2 ^ dropped), dropped - shift, ?_, ?_, ?_, ?_,
    abs_roundDiv_sub_le _ hscaled, two_dvd_roundDiv hscaled⟩
  · have hden' : (x.den : ℚ) ≠ 0 := by exact_mod_cast hden.ne'
    rw [toRat, zpow_sub₀ two_ne_zero, zpow_natCast, zpow_natCast]
    push_cast
    field_simp
  · have hnearest : x.nearest.toRat =
        ((roundDiv (x.num * 2 ^ shift) (x.den * 2 ^ dropped) * 2 ^ dropped : ℕ) : ℚ) /
          ((2 ^ shift : ℕ) : ℚ) := by
      simp only [toRat, nearest, Nat.shiftLeft_eq, Nat.one_mul, ← hshift, ← hdropped]
    rw [hnearest, zpow_sub₀ two_ne_zero, zpow_natCast, zpow_natCast]
    push_cast
    ring
  · rw [le_div_iff₀ hscaled']
    exact_mod_cast hlow
  · rw [div_lt_iff₀ hscaled']
    exact_mod_cast hhigh

theorem toRat_nearest_of_num_eq_zero {x : Fraction} (h : x.num = 0) : x.nearest.toRat = 0 := by
  simp [nearest, toRat, h, roundDiv]

theorem toRat_of_num_eq_zero {x : Fraction} (h : x.num = 0) : x.toRat = 0 := by
  simp [toRat, h]

/-- **Rounding by shifts is rounding to the nearest.** -/
theorem roundsTo_nearest (x : Fraction) : RoundsTo x.toRat x.nearest.toRat := by
  rcases Nat.eq_zero_or_pos x.num with hzero | hpos
  · rw [toRat_of_num_eq_zero hzero, toRat_nearest_of_num_eq_zero hzero]
    refine ⟨isBinary_zero, ?_, fun _ _ _ => .inr isBinary_zero⟩
    intro z _
    rw [sub_zero, abs_zero]
    exact abs_nonneg _
  · obtain ⟨t, r, e, hx, hr, hlow, hhigh, hnear, heven⟩ := exists_significand x hpos
    rw [hx, hr]
    exact (RoundsTo.of_whole hlow hhigh hnear heven).mul_zpow e

/-- A number that is not negative as a fraction. -/
def ofRat (q : ℚ) : Fraction := ⟨q.num.toNat, q.den, q.den_pos⟩

theorem toRat_ofRat {q : ℚ} (hq : 0 ≤ q) : (ofRat q).toRat = q := by
  have hnum : ((q.num.toNat : ℤ) : ℚ) = q.num := by
    rw [Int.toNat_of_nonneg (Rat.num_nonneg.2 hq)]
  simp only [toRat, ofRat]
  rw [← Int.cast_natCast, hnum]
  exact Rat.num_div_den q

end Fraction

/-- There is a binary number nearby. -/
theorem exists_isBinary_abs_sub_le (hx : 0 ≤ x) : ∃ z, IsBinary 53 z ∧ |z - x| ≤ x / 2 ^ 53 := by
  rcases hx.eq_or_lt with rfl | hpos
  · exact ⟨0, isBinary_zero, by simp⟩
  · have hnum : 0 < (Fraction.ofRat x).num := by
      have := Rat.num_pos.2 hpos
      show 0 < x.num.toNat
      omega
    obtain ⟨t, r, e, hx', hr, hlow, -, hnear, -⟩ := Fraction.exists_significand _ hnum
    rw [Fraction.toRat_ofRat hx] at hx'
    refine ⟨r * 2 ^ e, hr ▸ (Fraction.roundsTo_nearest _).isBinary, ?_⟩
    have hunit : (0 : ℚ) < 2 ^ e := by positivity
    rw [hx', ← sub_mul, abs_mul, abs_of_pos hunit]
    calc |(r : ℚ) - t| * 2 ^ e ≤ t / 2 ^ 53 * 2 ^ e := by
          refine mul_le_mul_of_nonneg_right (hnear.trans ?_) hunit.le
          linarith
      _ = t * 2 ^ e / 2 ^ 53 := by ring

/-- **Rounding moves a number by one part in 2^53 at most.** -/
theorem RoundsTo.abs_sub_le (h : RoundsTo x y) (hx : 0 ≤ x) : |y - x| ≤ x / 2 ^ 53 := by
  obtain ⟨z, hz, hnear⟩ := exists_isBinary_abs_sub_le hx
  exact (h.nearest z hz).trans hnear

end DeviceQuota
