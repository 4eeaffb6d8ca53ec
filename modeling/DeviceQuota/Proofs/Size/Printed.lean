import DeviceQuota.Proofs.Size.Quantities
import DeviceQuota.Size.Printer

/-!
# Printed sizes as quantities

What is printed is a quantity: digits, two of them behind a point unless the unit is a byte, a blank
and the name of the unit. It is therefore read. The number of bytes comes back as it was, and of a
number of hundredths the number of units is rounded to binary; the units are powers of two, so that
nothing more is lost in the product than its fraction.

* **`Numeral.ofHundredths`** — a number of hundredths as a numeral, and **`exact_ofHundredths`**, its
  value;
* **`Shown.scale`** — the unit that is read where one is shown;
* **`parse_bytes`**, **`parse_twoPlaces`** — what is read of a printed size.
-/

namespace DeviceQuota.Size

/-! ### Printed numbers -/

theorem allDigits_toDigits (n : ℕ) : AllDigits (Nat.toDigits 10 n) :=
  fun _ hc => Nat.isDigit_of_mem_toDigits (by decide) (by decide) hc

/-- A printed number is the number that is written. -/
theorem digitsValue_toDigits (n : ℕ) : Text.digitsValue (Nat.toDigits 10 n) = n := by
  have h : Nat.ofDigitChars 10 (Nat.toDigits 10 n) 0 = n := Nat.ofDigitChars_ten_toDigits
  rwa [Nat.ofDigitChars_eq_foldl] at h

theorem digitValue_digitChar {n : ℕ} (h : n < 10) : Text.digitValue n.digitChar = n :=
  Nat.toNat_digitChar_sub_48_of_lt_ten h

/-- So many hundredths, with two digits behind the point. -/
def Numeral.ofHundredths (h : ℕ) : Numeral :=
  ⟨Nat.toDigits 10 (h / 100), some [(h % 100 / 10).digitChar, (h % 10).digitChar], none⟩

/-- A number below a hundred, with a zero in front if it has one digit. -/
theorem toList_places {places : ℕ} (h : places < 100) :
    (if places < 10 then ".0" else ".").toList ++ Nat.toDigits 10 places =
      ['.', (places / 10).digitChar, (places % 10).digitChar] := by
  by_cases hlow : places < 10
  · rw [if_pos hlow, Nat.toDigits_of_lt_base hlow, Nat.div_eq_of_lt hlow, Nat.mod_eq_of_lt hlow]
    rfl
  · rw [if_neg hlow, Nat.toDigits_of_base_le (by decide) (not_lt.1 hlow),
      Nat.toDigits_of_lt_base (by omega)]
    rfl

theorem toList_twoPlaces (h : ℕ) : (twoPlaces h).toList = (Numeral.ofHundredths h).toList := by
  have hplaces := toList_places (Nat.mod_lt h (show 0 < 100 by decide))
  rw [show h % 100 % 10 = h % 10 by omega] at hplaces
  simp only [twoPlaces, String.toList_append, List.append_assoc, Nat.toString_eq_repr,
    Nat.toList_repr, hplaces]
  simp [Numeral.ofHundredths, Numeral.toList]

theorem wellFormed_ofHundredths (h : ℕ) : (Numeral.ofHundredths h).WellFormed where
  whole := allDigits_toDigits _
  fraction := by
    have hfirst : (h % 100 / 10).digitChar.isDigit = true := by
      rw [Nat.isDigit_digitChar, decide_eq_true_eq]
      omega
    have hsecond : (h % 10).digitChar.isDigit = true := by
      rw [Nat.isDigit_digitChar, decide_eq_true_eq]
      omega
    intro c hc
    rcases List.mem_pair.1 hc with rfl | rfl
    · exact hfirst
    · exact hsecond
  hasDigits := (Numeral.hasDigits_iff _).2 (.inl Nat.toDigits_ne_nil)
  exponent := by rintro e ⟨⟩

/-- The value of a number of hundredths. -/
theorem exact_ofHundredths (h : ℕ) : (Numeral.ofHundredths h).exact = h / 100 := by
  have hmantissa : written (Nat.toDigits 10 (h / 100) ++
      [(h % 100 / 10).digitChar, (h % 10).digitChar]) = h := by
    rw [List.append_cons, written_eq, Text.digitsValue_concat, Text.digitsValue_concat,
      digitsValue_toDigits, digitValue_digitChar (by omega), digitValue_digitChar (by omega)]
    omega
  have hpower : (Numeral.ofHundredths h).writtenPower = -2 := rfl
  rw [Numeral.exact, hpower]
  show (written (Nat.toDigits 10 (h / 100) ++ [(h % 100 / 10).digitChar, (h % 10).digitChar]) : ℚ)
    * 10 ^ (-2 : ℤ) = h / 100
  rw [hmantissa, zpow_neg]
  norm_num [div_eq_mul_inv]

/-! ### Printed units -/

/-- The unit that is read where one is shown. -/
def Shown.scale : Shown → Scale
  | .kibibytes => .kibi
  | .mebibytes => .mebi
  | .gibibytes => .gibi

theorem Shown.factor_scale (u : Shown) : u.scale.factor = u.factor := by cases u <;> rfl

theorem Shown.ofSuffix_name (u : Shown) :
    Scale.ofSuffix (Text.trimStart (' ' :: u.name.toList)) = u.scale := by
  cases u <;> decide

/-! ### Reading what is printed -/

/-- A numeral, a blank and the name of a unit. -/
theorem parse_of_blank_suffix {text : String} {n : Numeral} {cs : List Char} (hn : n.WellFormed)
    (hsome : n.whole ≠ []) (htext : text.toList = n.toList ++ ' ' :: cs) :
    parse text = .ok (n.bytes (Scale.ofSuffix (Text.trimStart (' ' :: cs)))) := by
  obtain rfl : text = String.ofList (n.toList ++ ' ' :: cs) := by
    rw [← htext, String.ofList_toList]
  exact (Quantity.ofScan hn hsome (Numeral.scan_append_of_isBlank hn Text.isBlank_space cs)).parse_eq

theorem wellFormed_ofWhole_toDigits (n : ℕ) :
    (Numeral.ofWhole (Nat.toDigits 10 n) false).WellFormed where
  whole := allDigits_toDigits n
  fraction := allDigits_nil
  hasDigits := Numeral.hasDigits_ofWhole Nat.toDigits_ne_nil false
  exponent := by rintro e ⟨⟩

/-- A number of bytes comes back as it was. -/
theorem parse_bytes (bytes : Bytes) : parse (toString bytes.toNat ++ " B") = .ok bytes := by
  have htext : (toString bytes.toNat ++ " B").toList =
      (Numeral.ofWhole (Nat.toDigits 10 bytes.toNat) false).toList ++ ' ' :: ['B'] := by
    simp [Numeral.ofWhole, Numeral.toList]
  have hread := parse_of_blank_suffix (wellFormed_ofWhole_toDigits bytes.toNat)
    Nat.toDigits_ne_nil htext
  have hnat := (Numeral.toNat_bytes_of_isWhole
    (Numeral.isWhole_ofWhole (Nat.toDigits 10 bytes.toNat) false) .one).2
  have hwritten : written (Nat.toDigits 10 bytes.toNat) = bytes.toNat := by
    rw [written_eq, digitsValue_toDigits]
  have hbelow : bytes.toNat < 2 ^ 64 := bytes.toNat_lt
  have hone : Scale.one.factor = 1 := rfl
  simp only [Numeral.ofWhole] at hnat
  rw [hwritten, hone, Nat.mul_one, Nat.min_eq_right (by omega)] at hnat
  rw [hread]
  exact congrArg Except.ok (UInt64.toNat_inj.1 hnat)

/-- A number of hundredths is rounded to binary, and multiplied without another rounding. -/
theorem parse_twoPlaces (h : ℕ) (u : Shown) :
    ∃ bytes : Bytes, parse (twoPlaces h ++ " " ++ u.name) = .ok bytes ∧
      RoundedBytes (h / 100) u.factor bytes.toNat := by
  have hwell := wellFormed_ofHundredths h
  have hfull : (Numeral.ofHundredths h).ReadInFull := .inr (by rintro e ⟨⟩)
  have htext : (twoPlaces h ++ " " ++ u.name).toList =
      (Numeral.ofHundredths h).toList ++ ' ' :: u.name.toList := by
    simp [toList_twoPlaces]
  have hread := parse_of_blank_suffix hwell Nat.toDigits_ne_nil htext
  have hrounded := Numeral.roundedBytes_bytes hwell hfull rfl u.scale
  rw [exact_ofHundredths, u.factor_scale] at hrounded
  rw [u.ofSuffix_name] at hread
  exact ⟨_, hread, hrounded⟩

end DeviceQuota.Size
