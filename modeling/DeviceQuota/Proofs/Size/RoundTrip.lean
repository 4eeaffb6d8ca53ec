import DeviceQuota.Proofs.Size.FractionalQuantities
import DeviceQuota.Proofs.Size.Printed

/-!
# Printing a size and reading it back

On the way from a number of bytes to a text and back it is rounded three times and cut once: to
binary, to hundredths of the unit, to binary again, and to its whole part. The hundredths are what
counts. The two binary roundings together move a size by less than one part in 2^11 of the unit, and
the cut takes a byte at most.

So a size comes back with an error of one hundredth of the unit, and the same number of hundredths is
printed for it, as long as the unit is the same. The unit is another one where the hundredths were
rounded up to 1024 units: that text is read as one unit of the next size.

* **`Shown.ofBytes_eq_some_iff`**, **`Shown.ofBytes_eq_none_iff`** — the sizes that a unit is for;
* **`abs_hundredths_sub_le`**, **`RoundedBytes.abs_sub_le`** — the two ways;
* **`parse_print`** — a printed size is read, and how far from the size;
* **`print_parse_print`** — what is read is printed with the same text, and where not.
-/

namespace DeviceQuota.Size

/-! ### The units -/

namespace Shown

variable {n : ℕ} {u : Shown}

theorem ofBytes_eq_some_iff :
    ofBytes n = some u ↔ u.factor ≤ n ∧ (u ≠ gibibytes → n < 1024 * u.factor) := by
  have hkibi : kibibytes.factor = 1024 := rfl
  have hmebi : mebibytes.factor = 1048576 := rfl
  have hgibi : gibibytes.factor = 1073741824 := rfl
  rw [ofBytes, hkibi, hmebi, hgibi]
  cases u with
  | kibibytes => split_ifs <;> simp <;> omega
  | mebibytes => split_ifs <;> simp <;> omega
  | gibibytes => split_ifs <;> simp <;> omega

theorem ofBytes_eq_none_iff : ofBytes n = none ↔ n < 1024 := by
  have hkibi : kibibytes.factor = 1024 := rfl
  have hmebi : mebibytes.factor = 1048576 := rfl
  have hgibi : gibibytes.factor = 1073741824 := rfl
  rw [ofBytes, hkibi, hmebi, hgibi]
  split_ifs <;> simp <;> omega

theorem factor_bounds (u : Shown) : 1024 ≤ u.factor ∧ u.factor ≤ 2 ^ 30 := by
  cases u <;> decide

theorem le_cast_factor (u : Shown) : (1024 : ℚ) ≤ u.factor := by
  exact_mod_cast u.factor_bounds.1

/-- A size is less than 2^34 of its units. -/
theorem le_mul_factor (h : ofBytes n = some u) (hn : n < 2 ^ 64) : n ≤ 2 ^ 34 * u.factor := by
  obtain ⟨-, hbelow⟩ := ofBytes_eq_some_iff.1 h
  by_cases hu : u = gibibytes
  · have hgibi : u.factor = 2 ^ 30 := by rw [hu]; rfl
    omega
  · have := hbelow hu
    omega

/-- A binary number of units is a binary number of bytes. -/
theorem isBinary_mul_factor {bits : ℕ} {w : ℚ} (hw : IsBinary bits w) (u : Shown) :
    IsBinary bits (w * u.factor) := by
  have hpower : ∃ e : ℤ, (u.factor : ℚ) = 2 ^ e := by
    cases u with
    | kibibytes => exact ⟨10, by norm_num [factor]⟩
    | mebibytes => exact ⟨20, by norm_num [factor]⟩
    | gibibytes => exact ⟨30, by norm_num [factor]⟩
  obtain ⟨e, he⟩ := hpower
  rw [he]
  exact hw.mul_zpow e

end Shown

variable {n h b : ℕ} {u : Shown}

/-- Whole numbers less than one apart, in bytes. -/
theorem le_of_mul_factor_lt {a : ℕ} (hlt : (a : ℚ) * u.factor < (b + 1) * u.factor) : a ≤ b := by
  have hless : (a : ℚ) < b + 1 := lt_of_mul_lt_mul_right hlt (Nat.cast_nonneg _)
  exact Nat.le_of_lt_succ (by exact_mod_cast hless)

/-! ### Printing -/

/-- The hundredths are those of the size as rounded to binary. -/
theorem exists_roundsTo_hundredths (n : ℕ) (u : Shown) :
    ∃ y : ℚ, RoundsTo n y ∧ |(hundredths n u : ℚ) * u.factor - 100 * y| ≤ u.factor / 2 := by
  have hrounds := (Fraction.ofNat n).roundsTo_nearest
  rw [Fraction.toRat_ofNat] at hrounds
  refine ⟨_, hrounds, ?_⟩
  have hfactor : 0 < u.factor := by have := u.factor_bounds; omega
  have hfactor' : (0 : ℚ) < u.factor := by exact_mod_cast hfactor
  have hden := (Fraction.ofNat n).nearest.den_pos
  have hnear := abs_roundDiv_sub_le ((Fraction.ofNat n).nearest.num * 100)
    (Nat.mul_pos hden hfactor)
  have hquotient : (((Fraction.ofNat n).nearest.num * 100 : ℕ) : ℚ) /
      (((Fraction.ofNat n).nearest.den * u.factor : ℕ) : ℚ) =
      100 * (Fraction.ofNat n).nearest.toRat / u.factor := by
    rw [Fraction.toRat]
    push_cast
    ring
  rw [hquotient] at hnear
  calc |(hundredths n u : ℚ) * u.factor - 100 * (Fraction.ofNat n).nearest.toRat|
      = |(hundredths n u : ℚ) - 100 * (Fraction.ofNat n).nearest.toRat / u.factor| * u.factor := by
        rw [← abs_of_pos hfactor', ← abs_mul, sub_mul, abs_of_pos hfactor',
          div_mul_cancel₀ _ hfactor'.ne']
    _ ≤ 1 / 2 * u.factor := mul_le_mul_of_nonneg_right hnear hfactor'.le
    _ = u.factor / 2 := by ring

/-- Up to 2^53 bytes nothing is lost in binary. -/
theorem hundredths_bounds (hn : n ≤ 2 ^ 53) (u : Shown) :
    2 * (hundredths n u * u.factor) ≤ 200 * n + u.factor ∧
      200 * n ≤ 2 * (hundredths n u * u.factor) + u.factor := by
  obtain ⟨y, hy, hnear⟩ := exists_roundsTo_hundredths n u
  rw [hy.eq_self (isBinary_natCast hn)] at hnear
  obtain ⟨hlow, hhigh⟩ := abs_le.1 hnear
  have hupper : 2 * ((hundredths n u : ℚ) * u.factor) ≤ 200 * n + u.factor := by linarith
  have hlower : 200 * (n : ℚ) ≤ 2 * (hundredths n u * u.factor) + u.factor := by linarith
  exact ⟨by exact_mod_cast hupper, by exact_mod_cast hlower⟩

/-- What reaches `k` units is not printed as less. -/
theorem le_hundredths {k : ℕ} (hk : k ≤ 2 ^ 53) (hle : k * u.factor ≤ n) :
    100 * k ≤ hundredths n u := by
  obtain ⟨y, hy, hnear⟩ := exists_roundsTo_hundredths n u
  have hle' : (k : ℚ) * u.factor ≤ n := by exact_mod_cast hle
  have hky := hy.le_of_le (u.isBinary_mul_factor (isBinary_natCast hk)) hle'
  have hfactor := u.le_cast_factor
  have hlow := (abs_le.1 hnear).1
  apply le_of_mul_factor_lt (u := u)
  push_cast
  linarith

/-- What does not exceed `k` units is not printed as more. -/
theorem hundredths_le {k : ℕ} (hk : k ≤ 2 ^ 53) (hle : n ≤ k * u.factor) :
    hundredths n u ≤ 100 * k := by
  obtain ⟨y, hy, hnear⟩ := exists_roundsTo_hundredths n u
  have hle' : (n : ℚ) ≤ k * u.factor := by exact_mod_cast hle
  have hky := hy.ge_of_ge (u.isBinary_mul_factor (isBinary_natCast hk)) hle'
  have hfactor := u.le_cast_factor
  have hhigh := (abs_le.1 hnear).2
  apply le_of_mul_factor_lt (u := u)
  push_cast
  linarith

/-- **Printing moves a size by half a hundredth of the unit**, and a little more in binary. -/
theorem abs_hundredths_sub_le (hn : n ≤ 2 ^ 34 * u.factor) :
    |(hundredths n u : ℚ) * u.factor - 100 * n| ≤ u.factor / 2 + u.factor / 2 ^ 12 := by
  obtain ⟨y, hy, hnear⟩ := exists_roundsTo_hundredths n u
  have hbinary := hy.abs_sub_le (Nat.cast_nonneg n)
  have hn' : (n : ℚ) ≤ 2 ^ 34 * u.factor := by exact_mod_cast hn
  obtain ⟨hlow, hhigh⟩ := abs_le.1 hnear
  obtain ⟨hlow', hhigh'⟩ := abs_le.1 hbinary
  rw [abs_le]
  constructor <;> linarith

/-! ### Reading -/

namespace RoundedBytes

/-- The second rounding does nothing: what counts is the whole part of a product. -/
theorem exists_product (hread : RoundedBytes (h / 100) u.factor b) :
    ∃ w : ℚ, RoundsTo (h / 100) w ∧ b = min (2 ^ 64 - 1) ⌊w * u.factor⌋₊ := by
  obtain ⟨w, p, hw, hp, rfl⟩ := hread
  rw [hp.eq_self (u.isBinary_mul_factor hw.isBinary)]
  exact ⟨w, hw, rfl⟩

/-- Hundredths of `k` units are read as no less. -/
theorem mul_le {k : ℕ} (hread : RoundedBytes (h / 100) u.factor b) (hk : 100 * k ≤ h)
    (hbinary : k ≤ 2 ^ 53) (hbelow : k * u.factor < 2 ^ 64) : k * u.factor ≤ b := by
  obtain ⟨w, hw, rfl⟩ := hread.exists_product
  have hk' : (k : ℚ) ≤ h / 100 := by
    have hcast : (100 : ℚ) * k ≤ h := by exact_mod_cast hk
    linarith
  have hkw : (k : ℚ) ≤ w := hw.le_of_le (isBinary_natCast hbinary) hk'
  have hproduct : ((k * u.factor : ℕ) : ℚ) ≤ w * u.factor := by
    rw [Nat.cast_mul]
    exact mul_le_mul_of_nonneg_right hkw (Nat.cast_nonneg _)
  have hfloor : k * u.factor ≤ ⌊w * u.factor⌋₊ := Nat.le_floor hproduct
  omega

/-- Up to the largest byte count only a fraction is cut off. -/
theorem product_bounds {w : ℚ} (hnonneg : 0 ≤ w) (hw : w * u.factor ≤ 2 ^ 64)
    (hb : b = min (2 ^ 64 - 1) ⌊w * u.factor⌋₊) : b ≤ w * u.factor ∧ w * u.factor ≤ b + 1 := by
  have hproduct : 0 ≤ w * u.factor := mul_nonneg hnonneg (Nat.cast_nonneg _)
  rcases Nat.le_total (2 ^ 64 - 1) ⌊w * u.factor⌋₊ with hcut | hfits
  · rw [Nat.min_eq_left hcut] at hb
    have hlower : (b : ℚ) ≤ w * u.factor := by
      rw [hb]
      exact (Nat.cast_le.2 hcut).trans (Nat.floor_le hproduct)
    have hgreatest : (b : ℚ) + 1 = 2 ^ 64 := by
      rw [hb]
      norm_num
    exact ⟨hlower, by rwa [hgreatest]⟩
  · rw [Nat.min_eq_right hfits] at hb
    rw [hb]
    exact ⟨Nat.floor_le hproduct, (Nat.lt_floor_add_one _).le⟩

/-- **Reading moves a number of hundredths by a byte**, and a little more in binary. -/
theorem abs_sub_le (hread : RoundedBytes (h / 100) u.factor b) (hh : h ≤ 100 * 2 ^ 34) :
    |100 * (b : ℚ) - h * u.factor| ≤ 100 + u.factor / 2 ^ 12 := by
  obtain ⟨w, hw, hb⟩ := hread.exists_product
  have hh' : (h : ℚ) ≤ 100 * 2 ^ 34 := by exact_mod_cast hh
  have hfactor : (0 : ℚ) ≤ u.factor := Nat.cast_nonneg _
  have hbelow : w * u.factor ≤ 2 ^ 64 := by
    have hw' : w ≤ 2 ^ 34 := hw.ge_of_ge ⟨1, 34, by norm_num, by norm_num⟩ (by linarith)
    have hfactor' : (u.factor : ℚ) ≤ 2 ^ 30 := by exact_mod_cast u.factor_bounds.2
    calc w * u.factor ≤ 2 ^ 34 * 2 ^ 30 := mul_le_mul hw' hfactor' hfactor (by norm_num)
      _ = 2 ^ 64 := by norm_num
  obtain ⟨hcut, hcut'⟩ := product_bounds hw.nonneg hbelow hb
  have hbinary : |w * u.factor - h / 100 * u.factor| ≤ u.factor / 2 ^ 19 := by
    rw [← sub_mul, abs_mul, abs_of_nonneg hfactor]
    calc |w - h / 100| * u.factor ≤ 1 / 2 ^ 19 * u.factor := by
          refine mul_le_mul_of_nonneg_right ((hw.abs_sub_le (by positivity)).trans ?_) hfactor
          linarith
      _ = u.factor / 2 ^ 19 := by ring
  obtain ⟨hdown, hup⟩ := abs_le.1 hbinary
  rw [abs_le]
  constructor <;> linarith

end RoundedBytes

/-! ### There and back -/

theorem print_of_lt {bytes : Bytes} (hn : bytes.toNat < 1024) :
    print bytes = toString bytes.toNat ++ " B" := by
  rw [print, Shown.ofBytes_eq_none_iff.2 hn]

theorem print_of_ofBytes {bytes : Bytes} (hu : Shown.ofBytes bytes.toNat = some u) :
    print bytes = twoPlaces (hundredths bytes.toNat u) ++ " " ++ u.name := by
  rw [print, hu]

/-- What is known of a size that is printed with a unit and read back. -/
structure ReadBack (bytes : Bytes) (u : Shown) (back : Bytes) : Prop where
  parse_eq : parse (print bytes) = .ok back
  rounded : RoundedBytes (hundredths bytes.toNat u / 100) u.factor back.toNat
  le_hundredths : 100 ≤ hundredths bytes.toNat u
  hundredths_le : hundredths bytes.toNat u ≤ 100 * 2 ^ 34
  hundredths_le_next : u ≠ .gibibytes → hundredths bytes.toNat u ≤ 102400
  abs_printed : |(hundredths bytes.toNat u : ℚ) * u.factor - 100 * bytes.toNat| ≤
    u.factor / 2 + u.factor / 2 ^ 12
  abs_read : |100 * (back.toNat : ℚ) - hundredths bytes.toNat u * u.factor| ≤
    100 + u.factor / 2 ^ 12

theorem exists_readBack {bytes : Bytes} (hu : Shown.ofBytes bytes.toNat = some u) :
    ∃ back, ReadBack bytes u back := by
  obtain ⟨back, hparse, hrounded⟩ := parse_twoPlaces (hundredths bytes.toNat u) u
  obtain ⟨hreached, hnext⟩ := Shown.ofBytes_eq_some_iff.1 hu
  have hlarge := Shown.le_mul_factor hu bytes.toNat_lt
  have hhigh : hundredths bytes.toNat u ≤ 100 * 2 ^ 34 := hundredths_le (by norm_num) hlarge
  exact ⟨back,
    { parse_eq := by rw [print_of_ofBytes hu, hparse]
      rounded := hrounded
      le_hundredths := le_hundredths (k := 1) (by norm_num) (by omega)
      hundredths_le := hhigh
      hundredths_le_next := fun hu' => hundredths_le (k := 1024) (by norm_num) (hnext hu').le
      abs_printed := abs_hundredths_sub_le hlarge
      abs_read := hrounded.abs_sub_le hhigh }⟩

/-- **A printed size is read as nearly the same size.** Below 1024 bytes it is the same; otherwise the
difference is at most one hundredth of the unit that is printed. -/
theorem parse_print (bytes : Bytes) :
    ∃ back : Bytes, parse (print bytes) = .ok back ∧ (bytes.toNat < 1024 → back = bytes) ∧
      (1024 ≤ bytes.toNat → ∃ (u : Shown) (number : String),
        print bytes = number ++ " " ++ u.name ∧
        100 * |(back.toNat : ℤ) - bytes.toNat| ≤ u.factor) := by
  cases hu : Shown.ofBytes bytes.toNat with
  | none =>
    have hsmall := Shown.ofBytes_eq_none_iff.1 hu
    refine ⟨bytes, by rw [print_of_lt hsmall, parse_bytes], fun _ => rfl, ?_⟩
    intro hlarge
    omega
  | some u =>
    obtain ⟨back, hback⟩ := exists_readBack hu
    have hlarge : 1024 ≤ bytes.toNat := by
      by_contra hsmall
      rw [Shown.ofBytes_eq_none_iff.2 (not_le.1 hsmall)] at hu
      cases hu
    refine ⟨back, hback.parse_eq, fun hsmall => absurd hlarge (not_le.2 hsmall), ?_⟩
    intro _
    refine ⟨u, _, print_of_ofBytes hu, ?_⟩
    have hfactor := u.le_cast_factor
    obtain ⟨hdown, hup⟩ := abs_le.1 hback.abs_printed
    obtain ⟨hdown', hup'⟩ := abs_le.1 hback.abs_read
    have hclose : 100 * |(back.toNat : ℚ) - bytes.toNat| ≤ u.factor := by
      have habs : |(back.toNat : ℚ) - bytes.toNat| ≤ u.factor / 100 := by
        rw [abs_le]
        constructor <;> linarith
      linarith
    exact_mod_cast hclose

/-! ### There and back again -/

/-- The size is less than half a hundredth of its unit below the next unit, which is not reached. -/
def RoundsUp (n : ℕ) : Prop :=
  1048571 ≤ n ∧ n < 1024 ^ 2 ∨ 1073736582 ≤ n ∧ n < 1024 ^ 3

/-- The number that is shown reaches the unit, and no larger one. -/
inductive InLargestUnit : String → Prop
  | bytes {n : ℕ} (hbelow : n < 1024) : InLargestUnit (toString n ++ " B")
  | units {h : ℕ} {u : Shown} (hreached : 100 ≤ h) (hbelow : u ≠ .gibibytes → h < 102400) :
    InLargestUnit (twoPlaces h ++ " " ++ u.name)

theorem not_roundsUp_of_lt (hn : n < 1024) : ¬ RoundsUp n := by
  unfold RoundsUp
  omega

/-- 1024 units are shown where the size is rounded up, and otherwise fewer. -/
theorem hundredths_lt_iff (hu : Shown.ofBytes n = some u) :
    (u ≠ .gibibytes → hundredths n u < 102400) ↔ ¬ RoundsUp n := by
  obtain ⟨hreached, hnext⟩ := Shown.ofBytes_eq_some_iff.1 hu
  unfold RoundsUp
  by_cases hgibi : u = .gibibytes
  · rw [hgibi] at hreached
    change 1024 * 1024 * 1024 ≤ n at hreached
    simp only [hgibi, ne_eq, not_true_eq_false, false_implies, true_iff]
    omega
  · have hbelow := hnext hgibi
    have hsmall : n ≤ 2 ^ 53 := by have := u.factor_bounds; omega
    have hle := hundredths_le (k := 1024) (by norm_num) hbelow.le
    obtain ⟨hdown, hup⟩ := hundredths_bounds hsmall u
    rw [show (u ≠ .gibibytes → hundredths n u < 102400) ↔ hundredths n u < 102400 from
      ⟨fun h => h hgibi, fun h _ => h⟩]
    cases u with
    | kibibytes =>
      have hfactor : Shown.kibibytes.factor = 1024 := rfl
      rw [hfactor] at hreached hbelow hdown hup
      omega
    | mebibytes =>
      have hfactor : Shown.mebibytes.factor = 1048576 := rfl
      rw [hfactor] at hreached hbelow hdown hup
      omega
    | gibibytes => exact absurd rfl hgibi

namespace ReadBack

variable {bytes back : Bytes}

/-- Fewer than 1024 units are read as fewer, and no fewer than one. -/
theorem ofBytes_eq (hback : ReadBack bytes u back)
    (hbelow : u ≠ .gibibytes → hundredths bytes.toNat u < 102400) :
    Shown.ofBytes back.toNat = some u := by
  have hfactor := u.factor_bounds
  refine Shown.ofBytes_eq_some_iff.2 ⟨?_, ?_⟩
  · have hreached := hback.rounded.mul_le (k := 1) hback.le_hundredths (by norm_num) (by omega)
    omega
  · intro hgibi
    have hfactor' := u.le_cast_factor
    have hread := (abs_le.1 hback.abs_read).2
    have hlast : (hundredths bytes.toNat u : ℚ) ≤ 102399 := by
      exact_mod_cast Nat.le_of_lt_succ (hbelow hgibi)
    have hproduct := mul_le_mul_of_nonneg_right hlast (show (0 : ℚ) ≤ u.factor by linarith)
    have hless : (back.toNat : ℚ) < 1024 * u.factor := by linarith
    exact_mod_cast hless

/-- The hundredths are the same: they are whole, and less than one apart. -/
theorem hundredths_eq (hback : ReadBack bytes u back) (hunit : Shown.ofBytes back.toNat = some u) :
    hundredths back.toNat u = hundredths bytes.toNat u := by
  have hfactor := u.le_cast_factor
  obtain ⟨hdown, hup⟩ := abs_le.1 hback.abs_read
  obtain ⟨hdown', hup'⟩ := abs_le.1
    (abs_hundredths_sub_le (Shown.le_mul_factor hunit back.toNat_lt))
  apply Nat.le_antisymm
  · apply le_of_mul_factor_lt (u := u)
    linarith
  · apply le_of_mul_factor_lt (u := u)
    linarith

/-- While the unit stays the same, so does the text. -/
theorem print_eq (hback : ReadBack bytes u back) (hu : Shown.ofBytes bytes.toNat = some u)
    (hbelow : u ≠ .gibibytes → hundredths bytes.toNat u < 102400) : print back = print bytes := by
  have hunit := hback.ofBytes_eq hbelow
  rw [print_of_ofBytes hunit, hback.hundredths_eq hunit, print_of_ofBytes hu]

/-- 1024 units are read as one unit of the next size. -/
theorem toNat_eq (hback : ReadBack bytes u back)
    (hnext : hundredths bytes.toNat u = 102400) : back.toNat = 1024 * u.factor := by
  have hrounded := hback.rounded
  have hunits : ((102400 : ℕ) : ℚ) / 100 = (1024 : ℕ) := by norm_num
  rw [hnext, hunits] at hrounded
  have hbelow : 1024 * u.factor < 2 ^ 53 := by have := u.factor_bounds; omega
  exact hrounded.eq_of_isBinary (isBinary_natCast (by norm_num)) (by push_cast; ring) hbelow

end ReadBack

/-- A size that is not rounded up to the next unit is shown in the largest one, and what is read is
shown in the same way. -/
theorem print_stable {bytes : Bytes} (hn : ¬ RoundsUp bytes.toNat) :
    InLargestUnit (print bytes) ∧ print (parseD (print bytes)) = print bytes := by
  cases hu : Shown.ofBytes bytes.toNat with
  | none =>
    have hsmall := Shown.ofBytes_eq_none_iff.1 hu
    have hparse : parse (print bytes) = .ok bytes := by rw [print_of_lt hsmall, parse_bytes]
    refine ⟨?_, by rw [parseD_of_ok hparse]⟩
    rw [print_of_lt hsmall]
    exact .bytes hsmall
  | some u =>
    have hbelow := (hundredths_lt_iff hu).2 hn
    obtain ⟨back, hback⟩ := exists_readBack hu
    refine ⟨?_, by rw [parseD_of_ok hback.parse_eq, hback.print_eq hu hbelow]⟩
    rw [print_of_ofBytes hu]
    exact .units hback.le_hundredths hbelow

/-- A size that is rounded up is shown as 1024 units and read as one unit of the next size. -/
theorem print_of_roundsUp {bytes : Bytes} (hn : RoundsUp bytes.toNat) :
    print bytes = "1024.00 KiB" ∧ parse (print bytes) = .ok 1048576 ∨
      print bytes = "1024.00 MiB" ∧ parse (print bytes) = .ok 1073741824 := by
  cases hu : Shown.ofBytes bytes.toNat with
  | none => exact absurd hn (not_roundsUp_of_lt (Shown.ofBytes_eq_none_iff.1 hu))
  | some u =>
    obtain ⟨back, hback⟩ := exists_readBack hu
    have hunits : u ≠ .gibibytes ∧ hundredths bytes.toNat u = 102400 := by
      by_contra hfewer
      refine (hundredths_lt_iff hu).1 (fun hgibi => ?_) hn
      exact lt_of_le_of_ne (hback.hundredths_le_next hgibi) fun hsame => hfewer ⟨hgibi, hsame⟩
    have hnat := hback.toNat_eq hunits.2
    have hprint := print_of_ofBytes hu
    rw [hunits.2] at hprint
    rw [hback.parse_eq]
    cases u with
    | kibibytes =>
      left
      have hsame : back = 1048576 := UInt64.toNat_inj.1 hnat
      exact ⟨hprint.trans (by decide), by rw [hsame]⟩
    | mebibytes =>
      right
      have hsame : back = 1073741824 := UInt64.toNat_inj.1 hnat
      exact ⟨hprint.trans (by decide), by rw [hsame]⟩
    | gibibytes => exact absurd rfl hunits.1

/-- **Reading what is printed and printing it again.** The text is in the largest unit that it reaches,
and printed again, unless the size is rounded up to a unit that it does not reach; once it has been
read, both are so for every size. -/
theorem print_parse_print (bytes : Bytes) :
    (InLargestUnit (print bytes) ∧ print (parseD (print bytes)) = print bytes ↔
      ¬ RoundsUp bytes.toNat) ∧
    InLargestUnit (print (parseD (print bytes))) ∧
    print (parseD (print (parseD (print bytes)))) = print (parseD (print bytes)) := by
  by_cases hn : RoundsUp bytes.toNat
  · have hback : parseD (print bytes) = 1048576 ∧ print bytes = "1024.00 KiB" ∨
        parseD (print bytes) = 1073741824 ∧ print bytes = "1024.00 MiB" := by
      rcases print_of_roundsUp hn with ⟨hprint, hparse⟩ | ⟨hprint, hparse⟩
      · exact .inl ⟨parseD_of_ok hparse, hprint⟩
      · exact .inr ⟨parseD_of_ok hparse, hprint⟩
    have hstable : ¬ RoundsUp (parseD (print bytes)).toNat := by
      rcases hback with ⟨hback, -⟩ | ⟨hback, -⟩ <;> rw [hback] <;> unfold RoundsUp <;> decide
    refine ⟨⟨fun h => absurd h.2 ?_, fun h => absurd hn h⟩, print_stable hstable⟩
    rcases hback with ⟨hback, hprint⟩ | ⟨hback, hprint⟩
    · rw [hback, hprint]
      decide +kernel
    · rw [hback, hprint]
      decide +kernel
  · obtain ⟨hlargest, hsame⟩ := print_stable hn
    exact ⟨⟨fun _ => hn, fun _ => ⟨hlargest, hsame⟩⟩, by rwa [hsame], by rw [hsame, hsame]⟩

/-- One byte less than a mebibyte is shown as 1024 kibibytes, which are read as a mebibyte. -/
theorem print_parse_print_short :
    print 1048575 = "1024.00 KiB" ∧ print (parseD (print 1048575)) = "1.00 MiB" := by
  decide +kernel

end DeviceQuota.Size
