import DeviceQuota.Proofs.Size.Quantities

/-!
# Quantities that are rounded

A numeral with a fraction or an exponent is rounded twice, and then its whole part is taken. Where it
writes a whole number of bytes below 2^53, nothing is lost if the first rounding changes nothing: then
the product is a number of 53 bits as well. That is so in bytes and in the units that are powers of
1024. In the units that are powers of 1000 the numeral may lie between two binary numbers. If the lower
one is nearer, the product can end up just below the whole number, and taking the whole part drops a
byte. If the upper one is nearer, the product is large enough, and a byte too many is possible only
where there is no room for a half, from 2^52 on.

A positive number of bytes is never read as none: the two roundings never take one byte below one.

* **`RoundedBytes.eq_of_isBinary`**, **`RoundedBytes.le_add_one`**, **`RoundedBytes.le_of_lt`**,
  **`RoundedBytes.ge_of_le`** — what becomes of a whole number of bytes;
* **`RoundedBytes.pos`** — what becomes of one byte or more;
* **`parse_fractional_quantity`** — how fractions are read, and
  **`parse_fractional_quantity_short`**, where a byte is missing.
-/

namespace DeviceQuota.Size

/-! ### Whole numbers of bytes -/

namespace RoundedBytes

variable {x w p : ℚ} {factor bytes n : ℕ}

theorem min_floor_eq {n : ℕ} (hn : n < 2 ^ 53) : min (2 ^ 64 - 1) ⌊(n : ℚ)⌋₊ = n := by
  rw [Nat.floor_natCast]
  omega

/-- A numeral that is a binary number is multiplied without loss. -/
theorem eq_of_isBinary (h : RoundedBytes x factor bytes) (hx : IsBinary 53 x)
    (hsize : x * factor = n) (hn : n < 2 ^ 53) : bytes = n := by
  obtain ⟨w, p, hw, hp, rfl⟩ := h
  rw [hw.eq_self hx, hsize] at hp
  rw [hp.eq_self (isBinary_natCast hn.le), min_floor_eq hn]

/-- The first rounding moves the product by less than a byte. -/
theorem abs_mul_sub_le (hw : RoundsTo x w) (hx : 0 ≤ x) (hsize : x * factor = n) :
    |w * factor - n| ≤ n / 2 ^ 53 := by
  have herror := hw.abs_sub_le hx
  have hfactor : (0 : ℚ) ≤ factor := Nat.cast_nonneg factor
  rw [← hsize, ← sub_mul, abs_mul, abs_of_nonneg hfactor]
  calc |w - x| * factor ≤ x / 2 ^ 53 * factor := mul_le_mul_of_nonneg_right herror hfactor
    _ = x * factor / 2 ^ 53 := by ring

/-- No more than one byte is lost or added. -/
theorem le_add_one (h : RoundedBytes x factor bytes) (hx : 0 ≤ x) (hsize : x * factor = n)
    (hn : n < 2 ^ 53) : n ≤ bytes + 1 ∧ bytes ≤ n + 1 := by
  obtain ⟨w, p, hw, hp, rfl⟩ := h
  have hn' : (n : ℚ) < 2 ^ 53 := by exact_mod_cast hn
  have hproduct := abs_le.1 (abs_mul_sub_le hw hx hsize)
  have hupper : p ≤ (n + 1 : ℕ) := by
    refine hp.ge_of_ge (isBinary_natCast hn) ?_
    push_cast
    linarith
  constructor
  · cases n with
    | zero => exact Nat.zero_le _
    | succ k =>
      have hlower : (k : ℚ) ≤ p := by
        refine hp.le_of_le (isBinary_natCast (by omega)) ?_
        push_cast at hproduct hn'
        linarith
      have hfloor : k ≤ ⌊p⌋₊ := Nat.le_floor hlower
      omega
  · have hfloor : ⌊p⌋₊ ≤ n + 1 := Nat.floor_le_of_le hupper
    omega

/-- While halves have a place, no byte is added. -/
theorem le_of_lt (h : RoundedBytes x factor bytes) (hx : 0 ≤ x) (hsize : x * factor = n)
    (hn : n < 2 ^ 52) : bytes ≤ n := by
  obtain ⟨w, p, hw, hp, rfl⟩ := h
  have hn' : (n : ℚ) < 2 ^ 52 := by exact_mod_cast hn
  have hproduct := abs_le.1 (abs_mul_sub_le hw hx hsize)
  have hhalf : IsBinary 53 (n + 1 / 2) :=
    ⟨2 * n + 1, -1, by omega, by rw [zpow_neg_one]; push_cast; ring⟩
  have hupper : p ≤ n + 1 / 2 := by
    refine hp.ge_of_ge hhalf ?_
    linarith
  have hfloor : ⌊p⌋₊ < n + 1 := by
    refine (Nat.floor_lt hp.nonneg).2 ?_
    push_cast
    linarith
  omega

/-- Where the numeral is not rounded down, no byte is lost. -/
theorem ge_of_le (hp : RoundsTo (w * factor) p) (hle : x ≤ w)
    (hsize : x * factor = n) (hn : n < 2 ^ 53) : n ≤ min (2 ^ 64 - 1) ⌊p⌋₊ := by
  have hlower : (n : ℚ) ≤ p := by
    refine hp.le_of_le (isBinary_natCast hn.le) ?_
    rw [← hsize]
    exact mul_le_mul_of_nonneg_right hle (Nat.cast_nonneg _)
  have hfloor : n ≤ ⌊p⌋₊ := Nat.le_floor hlower
  omega

/-! ### One byte -/

/-- A little less than one byte in units of `s`. -/
def shortOfByte (s : Scale) : Fraction :=
  ⟨10 ^ 20 - 1, 10 ^ 20 * s.factor, Nat.mul_pos (by decide) s.factor_pos⟩

theorem toRat_shortOfByte_mul_lt (s : Scale) : (shortOfByte s).toRat * s.factor < 1 := by
  have hfactor : (0 : ℚ) < s.factor := by exact_mod_cast s.factor_pos
  show ((10 ^ 20 - 1 : ℕ) : ℚ) / ((10 ^ 20 * s.factor : ℕ) : ℚ) * s.factor < 1
  rw [Nat.cast_mul, ← div_div, div_mul_cancel₀ _ hfactor.ne']
  norm_num

/-- In no unit is that rounded down by more than half the gap below one byte. -/
theorem lt_nearest_shortOfByte_mul (s : Scale) :
    1 - 1 / 2 ^ 54 < (shortOfByte s).nearest.toRat * s.factor := by
  have hcross : (shortOfByte s).nearest.den * (2 ^ 54 - 1) <
      (shortOfByte s).nearest.num * s.factor * 2 ^ 54 := by
    cases s <;> decide +kernel
  have hden : (0 : ℚ) < (shortOfByte s).nearest.den := by
    exact_mod_cast (shortOfByte s).nearest.den_pos
  have hcross' : ((shortOfByte s).nearest.den : ℚ) * (2 ^ 54 - 1) <
      (shortOfByte s).nearest.num * s.factor * 2 ^ 54 := by
    have h : (((shortOfByte s).nearest.den * (2 ^ 54 - 1) : ℕ) : ℚ) <
        ((shortOfByte s).nearest.num * s.factor * 2 ^ 54 : ℕ) := by exact_mod_cast hcross
    rwa [Nat.cast_mul, Nat.cast_sub Nat.one_le_two_pow, Nat.cast_mul, Nat.cast_mul, Nat.cast_pow,
      Nat.cast_one, Nat.cast_ofNat] at h
  rw [Fraction.toRat, div_mul_eq_mul_div, lt_div_iff₀ hden]
  linarith

/-- **What is at least one byte is read as at least one byte.** -/
theorem pos {s : Scale} (h : RoundedBytes x s.factor bytes) (hone : 1 ≤ x * s.factor) :
    1 ≤ bytes := by
  obtain ⟨w, p, hw, hp, rfl⟩ := h
  have hfactor : (0 : ℚ) < s.factor := by exact_mod_cast s.factor_pos
  have hless : (shortOfByte s).toRat < x :=
    lt_of_mul_lt_mul_right ((toRat_shortOfByte_mul_lt s).trans_le hone) hfactor.le
  have hle : (shortOfByte s).nearest.toRat ≤ w := (Fraction.roundsTo_nearest _).le_of_lt hw hless
  have hproduct : 1 - 1 / 2 ^ 54 < w * s.factor :=
    (lt_nearest_shortOfByte_mul s).trans_le (mul_le_mul_of_nonneg_right hle hfactor.le)
  have hp' : 1 ≤ p := by
    rcases le_or_gt 1 (w * s.factor) with habove | hbelow
    · exact hp.le_of_le isBinary_one habove
    · -- One is nearer than all that is below the gap.
      by_contra hless
      have hgap := hp.isBinary.le_of_lt_one (not_le.1 hless)
      have hdistance := hp.nearest 1 isBinary_one
      rw [abs_of_pos (sub_pos.2 hbelow)] at hdistance
      have := (abs_le.1 hdistance).1
      linarith
  have hfloor : 1 ≤ ⌊p⌋₊ := Nat.le_floor (by exact_mod_cast hp')
  omega

end RoundedBytes

/-! ### Reading -/

/-- A quantity of one byte or more is not read as zero bytes. -/
theorem Quantity.size_lt_one {raw : String} (q : Quantity raw) (hread : q.numeral.ReadInFull)
    (hzero : parse raw = .ok 0) : q.size < 1 := by
  have hbytes := Except.ok.inj (q.parse_eq.symm.trans hzero)
  by_contra hless
  have hone : 1 ≤ q.numeral.exact * (Scale.ofSuffix (Text.trimStart q.rest)).factor := by
    rw [← q.factor_eq]
    exact not_lt.1 hless
  cases hwhole : q.numeral.isWhole with
  | false =>
    have hpos := (Numeral.roundedBytes_bytes q.wellFormed hread hwhole _).pos hone
    rw [hbytes] at hpos
    exact absurd hpos (by decide)
  | true =>
    obtain ⟨hexact, hnat⟩ := Numeral.toNat_bytes_of_isWhole hwhole
      (Scale.ofSuffix (Text.trimStart q.rest))
    rw [hexact] at hone
    have hone' : 1 ≤ written q.numeral.whole * (Scale.ofSuffix (Text.trimStart q.rest)).factor := by
      exact_mod_cast hone
    rw [hbytes] at hnat
    change 0 = _ at hnat
    omega

/-- **Quantities that write a whole number of bytes.** Below 2^53 they are read without loss in bytes
and in the units that are powers of 1024, and wherever the numeral is a binary number; in the other
units a byte may be missing, if the numeral was rounded down, and a byte may be added from 2^52 on. -/
theorem parse_fractional_quantity {raw : String} (q : Quantity raw) {n : ℕ} (hsize : q.size = n)
    (hn : n < 2 ^ 53) (hread : q.numeral.ReadInFull) :
    ∃ bytes : Bytes, parse raw = .ok bytes ∧
      ((∃ k, q.factor = 1024 ^ k) ∨ IsBinary 53 q.numeral.exact → bytes.toNat = n) ∧
      (n ≤ bytes.toNat + 1 ∧ bytes.toNat ≤ n + 1) ∧ (n < 2 ^ 52 → bytes.toNat ≤ n) ∧
      ∃ w, RoundsTo q.numeral.exact w ∧ (q.numeral.exact ≤ w → n ≤ bytes.toNat) := by
  refine ⟨_, q.parse_eq, ?_⟩
  have hfactor := q.factor_eq
  have hsize' : q.numeral.exact * q.factor = n := hsize
  have hnonneg := q.numeral.exact_nonneg
  cases hwhole : q.numeral.isWhole with
  | true =>
    obtain ⟨hexact, hnat⟩ := Numeral.toNat_bytes_of_isWhole hwhole
      (Scale.ofSuffix (Text.trimStart q.rest))
    rw [← hfactor] at hnat
    rw [hexact] at hsize'
    have hproduct : written q.numeral.whole * q.factor = n := by exact_mod_cast hsize'
    have hsame : (q.numeral.bytes (Scale.ofSuffix (Text.trimStart q.rest))).toNat = n := by
      omega
    obtain ⟨w, hw⟩ := exists_roundsTo hnonneg
    exact ⟨fun _ => hsame, by omega, fun _ => hsame.le, w, hw, fun _ => hsame.ge⟩
  | false =>
    have hbytes := Numeral.roundedBytes_bytes q.wellFormed hread hwhole
      (Scale.ofSuffix (Text.trimStart q.rest))
    rw [← hfactor] at hbytes
    refine ⟨?_, hbytes.le_add_one hnonneg hsize' hn,
      fun hsmall => hbytes.le_of_lt hnonneg hsize' hsmall, ?_⟩
    · rintro (⟨k, hk⟩ | hbinary)
      · refine hbytes.eq_of_isBinary ⟨n, -(10 * k : ℕ), hn.le, ?_⟩ hsize' hn
        rw [← hsize', hk, zpow_neg, zpow_natCast, pow_mul]
        push_cast
        norm_num
      · exact hbytes.eq_of_isBinary hbinary hsize' hn
    · obtain ⟨w, p, hw, hp, hnat⟩ := hbytes
      refine ⟨w, hw, fun hle => ?_⟩
      rw [hnat]
      exact RoundedBytes.ge_of_le hp hle hsize' hn

/-- A fraction with an exponent in a unit that is a power of 1024. -/
theorem parse_fractional_quantity_gibibytes :
    ∃ q : Quantity "\u2003+6.25E-2 GiB", q.size = (67108864 : ℕ) ∧ 67108864 < 2 ^ 53 ∧
      q.numeral.ReadInFull ∧
      ∃ bytes : Bytes, parse "\u2003+6.25E-2 GiB" = .ok bytes ∧ bytes.toNat = 67108864 := by
  let q : Quantity "\u2003+6.25E-2 GiB" :=
    .ofStartsNumber (by decide) ((Numeral.hasDigits_scan_iff _).1 rfl)
  have hnumeral : q.numeral = ⟨['6'], some ['2', '5'], some ⟨'E', some '-', ['2']⟩⟩ := rfl
  have hfactor : q.factor = 1024 ^ 3 := rfl
  have hsize : q.size = (67108864 : ℕ) := by
    have hmantissa : written (['6'] ++ ['2', '5']) = 625 := rfl
    have hpower : q.numeral.writtenPower = -4 := by
      rw [hnumeral]
      rfl
    rw [Quantity.size, Numeral.exact, hpower, hnumeral, hfactor]
    show (written (['6'] ++ ['2', '5']) : ℚ) * 10 ^ (-4 : ℤ) * _ = _
    rw [hmantissa]
    norm_num
  have hread : q.numeral.ReadInFull := by
    rw [hnumeral]
    exact .inl (by decide)
  obtain ⟨bytes, hparse, hexact, -⟩ := parse_fractional_quantity q hsize (by norm_num) hread
  exact ⟨q, hsize, by norm_num, hread, bytes, hparse, hexact (.inl ⟨3, hfactor⟩)⟩

/-- The binary number next to 1.005 is smaller, and the thousandfold of it is rounded to a number below
1005. -/
theorem parse_fractional_quantity_short :
    ∃ q : Quantity "1.005k", q.numeral.isWhole = false ∧ q.numeral.ReadInFull ∧
      q.size = (1005 : ℕ) ∧ 1005 < 2 ^ 53 ∧ parse "1.005k" = .ok 1004 := by
  let q : Quantity "1.005k" := .ofStartsNumber (by decide) ((Numeral.hasDigits_scan_iff _).1 rfl)
  have hnumeral : q.numeral = ⟨['1'], some ['0', '0', '5'], none⟩ := rfl
  have hfactor : q.factor = 1000 := rfl
  refine ⟨q, by rw [hnumeral]; rfl, ?_, ?_, by norm_num, by decide +kernel⟩
  · rw [hnumeral]
    exact .inl (by decide)
  · have hmantissa : written (['1'] ++ ['0', '0', '5']) = 1005 := rfl
    have hpower : q.numeral.writtenPower = -3 := by
      rw [hnumeral]
      rfl
    rw [Quantity.size, Numeral.exact, hpower, hnumeral, hfactor]
    show (written (['1'] ++ ['0', '0', '5']) : ℚ) * 10 ^ (-3 : ℤ) * _ = _
    rw [hmantissa]
    norm_num

end DeviceQuota.Size
