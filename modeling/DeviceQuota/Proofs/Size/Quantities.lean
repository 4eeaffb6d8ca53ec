import DeviceQuota.Proofs.Fraction.Rounding
import DeviceQuota.Proofs.Size.WholeQuantities
import Mathlib.Data.List.TakeWhile
import Mathlib.Data.Nat.Digits.Lemmas

/-!
# Quantities and their exact values

What a size says is a rational number: the digits in front of the exponent as one number, times a
power of ten, times the number of bytes in a unit. What is read is that number where it is whole
digits alone; otherwise the numeral is rounded to binary, the product with the unit is rounded again,
and the whole part of it counts.

The digits of an exponent stop to count once they have reached 65536, and the power of ten is cut off
where it puts every value beyond the largest byte count or below one byte. The second of these is never
seen. The first one is, but only in a text that has about as many digits itself.

* **`Numeral.WellFormed`** — a numeral with parts of the grammar; **`Numeral.scan_of_longest`** — it is
  scanned if no longer numeral is at the front, and so in front of a blank;
* **`Numeral.exact`** — the value that is written; **`Numeral.ReadInFull`** — no digit is lost;
* **`Quantity`** — a text with its numeral, its rest and its unit; **`nonempty_quantity_iff`** — the
  texts that are read are quantities;
* **`RoundedBytes`** — two roundings and a cut; **`Numeral.roundedBytes_bytes`** — how numerals are
  read that are not whole.
-/

namespace DeviceQuota

namespace Text

theorem digitsValueWhile_concat (bound : ℕ) (ds : List Char) (d : Char) :
    digitsValueWhile bound (ds ++ [d]) =
      if digitsValueWhile bound ds < bound then 10 * digitsValueWhile bound ds + digitValue d
      else digitsValueWhile bound ds := by
  rw [digitsValueWhile, List.foldl_append]
  rfl

/-- Digits stop to count only once the bound is reached. -/
theorem le_digitsValueWhile (bound : ℕ) (ds : List Char) :
    bound ≤ digitsValueWhile bound ds ∨ digitsValue ds ≤ digitsValueWhile bound ds := by
  induction ds using List.reverseRecOn with
  | nil => exact .inr (Nat.le_refl 0)
  | append_singleton ds d ih =>
    rw [digitsValueWhile_concat, digitsValue_concat]
    split
    · right
      omega
    · left
      omega

end Text

namespace Size

/-! ### The parts of a numeral -/

/-- An exponent with parts of the grammar. -/
structure Exponent.WellFormed (e : Exponent) : Prop where
  letter : e.letter = 'e' ∨ e.letter = 'E'
  sign : e.sign = none ∨ e.sign = some '+' ∨ e.sign = some '-'
  digits_ne_nil : e.digits ≠ []
  digits : AllDigits e.digits

/-- A numeral with parts of the grammar. -/
structure Numeral.WellFormed (n : Numeral) : Prop where
  whole : AllDigits n.whole
  fraction : AllDigits n.fractionDigits
  hasDigits : n.hasDigits = true
  exponent : ∀ e ∈ n.exponent, e.WellFormed

namespace Exponent

theorem scan_toList {e : Exponent} (he : e.WellFormed) : scan e.toList = (some e, []) := by
  obtain ⟨letter, sign, ds⟩ := e
  obtain ⟨hletter, hsign, hsome, hdigits⟩ := he
  simp only at hletter hsign hsome hdigits
  obtain ⟨d, tail, rfl⟩ := List.exists_cons_of_ne_nil hsome
  have hlist : sign.toList = [] ∨ sign.toList = ['+'] ∨ sign.toList = ['-'] := by
    rcases hsign with rfl | rfl | rfl <;> simp
  have hsplit := scanSign_append hlist (hdigits d (by simp)) tail
  have hhead : sign.toList.head? = sign := by cases sign <;> rfl
  have htake : (d :: tail).takeWhile Char.isDigit = d :: tail := List.takeWhile_eq_self_iff.2 hdigits
  have hdrop : (d :: tail).dropWhile Char.isDigit = [] := List.dropWhile_eq_nil_iff.2 hdigits
  simp only [toList, scan, if_pos hletter, hsplit, hhead, htake, hdrop, List.isEmpty_cons,
    Bool.false_eq_true, if_false]

theorem wellFormed_scan {cs : List Char} {e : Exponent} (h : (scan cs).1 = some e) :
    e.WellFormed := by
  cases cs with
  | nil => cases h
  | cons c rest =>
    simp only [scan] at h
    split at h
    · next hletter =>
      split at h
      · cases h
      · next hsome =>
        cases h
        refine ⟨hletter, ?_, by simpa using hsome, allDigits_takeWhile _⟩
        rcases toList_fst_scanSign rest with hsign | hsign | hsign
        · exact .inl (Option.toList_eq_nil_iff.1 hsign)
        · exact .inr (.inl (Option.toList_eq_singleton_iff.1 hsign))
        · exact .inr (.inr (Option.toList_eq_singleton_iff.1 hsign))
    · cases h

end Exponent

namespace Numeral

variable {n : Numeral} {cs rest : List Char}

/-- The text behind the mantissa. -/
def exponentText (n : Numeral) : List Char := (n.exponent.map Exponent.toList).getD []

theorem exponentText_ahead (hn : n.WellFormed) :
    NoDigitAhead n.exponentText ∧ n.exponentText.head? ≠ some '.' ∧
      Exponent.scan n.exponentText = (n.exponent, []) := by
  unfold exponentText
  cases hexponent : n.exponent with
  | none => exact ⟨by rintro c ⟨⟩, by simp, rfl⟩
  | some e =>
    have he : e.WellFormed := hn.exponent e hexponent
    have htext : (e.toList).head? = some e.letter := rfl
    refine ⟨?_, ?_, Exponent.scan_toList he⟩
    · rcases he.letter with hletter | hletter
      · exact noDigitAhead_cons (by rw [hletter]; decide) _
      · exact noDigitAhead_cons (by rw [hletter]; decide) _
    · show (e.toList).head? ≠ some '.'
      rcases he.letter with hletter | hletter
      · simp [htext, hletter]
      · simp [htext, hletter]

theorem unscaled_toList (hn : n.WellFormed) :
    unscaled n.toList = ({ n with exponent := none }, n.exponentText) := by
  obtain ⟨hstop, hpoint, -⟩ := exponentText_ahead hn
  have hwhole := hn.whole
  have hfraction := hn.fraction
  cases hfs : n.fraction with
  | none =>
    have htext : n.toList = n.whole ++ n.exponentText := by simp [toList, exponentText, hfs]
    rw [htext, unscaled_whole hwhole hstop hpoint]
  | some fs =>
    have htext : n.toList = n.whole ++ '.' :: (fs ++ n.exponentText) := by
      simp [toList, exponentText, hfs]
    have hdigits : AllDigits fs := by simpa [fractionDigits, hfs] using hfraction
    rw [htext, unscaled_point hwhole, takeWhile_isDigit_append hdigits,
      dropWhile_isDigit_append hdigits, takeWhile_isDigit_of_noDigitAhead hstop,
      dropWhile_isDigit_of_noDigitAhead hstop, List.append_nil]

/-- A numeral is read back from its text. -/
theorem scan_toList (hn : n.WellFormed) : scan n.toList = (n, []) := by
  obtain ⟨-, -, hexponent⟩ := exponentText_ahead hn
  have hdigits : ({ n with exponent := none } : Numeral).hasDigits = true := hn.hasDigits
  rw [scan_eq, unscaled_toList hn]
  simp only [hdigits, if_true, hexponent]

theorem whole_scan (cs : List Char) : (scan cs).1.whole = cs.takeWhile Char.isDigit := by
  rw [scan_eq]
  split <;> rfl

theorem fraction_scan (cs : List Char) :
    (scan cs).1.fraction = (scanFraction (cs.dropWhile Char.isDigit)).1 := by
  rw [scan_eq]
  split <;> rfl

theorem allDigits_scanFraction (cs : List Char) : AllDigits ((scanFraction cs).1.getD []) := by
  unfold scanFraction
  split
  · exact allDigits_takeWhile _
  · exact allDigits_nil

/-- What is scanned has parts of the grammar. -/
theorem wellFormed_scan (h : (scan cs).1.hasDigits = true) : (scan cs).1.WellFormed where
  whole := by
    rw [whole_scan]
    exact allDigits_takeWhile cs
  fraction := by
    rw [fractionDigits, fraction_scan]
    exact allDigits_scanFraction _
  hasDigits := h
  exponent := by
    rw [hasDigits_scan] at h
    rw [scan_eq, if_pos h]
    intro e he
    exact Exponent.wellFormed_scan he

theorem isNumeral_toList (hn : n.WellFormed) : IsNumeral n.toList := by
  have hscan := scan_toList hn
  have hnumeral : IsNumeral (scan n.toList).1.toList :=
    isNumeral_scan (by rw [hscan]; exact hn.hasDigits)
  rwa [hscan] at hnumeral

theorem startsNumber_of_isNumeral {p : List Char} (hp : IsNumeral p) (cs : List Char) :
    StartsNumber (p ++ cs) := by
  cases hp with
  | plain hm => exact startsNumber_of_isMantissa hm cs
  | scaled hm _ =>
    rw [List.append_assoc]
    exact startsNumber_of_isMantissa hm _

/-- **A numeral is scanned where no longer one is at the front.** -/
theorem scan_of_longest (hn : n.WellFormed)
    (hlongest : ∀ p, IsNumeral p → p <+: n.toList ++ rest → p <+: n.toList) :
    scan (n.toList ++ rest) = (n, rest) := by
  have hnumeral := isNumeral_toList hn
  have hdigits : (scan (n.toList ++ rest)).1.hasDigits = true :=
    (hasDigits_scan_iff _).2 (startsNumber_of_isNumeral hnumeral rest)
  have hlonger : n.toList <+: (scan (n.toList ++ rest)).1.toList :=
    prefix_scan hnumeral (List.prefix_append _ _)
  have hshorter : (scan (n.toList ++ rest)).1.toList <+: n.toList :=
    hlongest _ (isNumeral_scan hdigits) ⟨_, toList_scan _⟩
  have htext : (scan (n.toList ++ rest)).1.toList = n.toList :=
    hshorter.eq_of_length (Nat.le_antisymm hshorter.length_le hlonger.length_le)
  have hparts : (scan (n.toList ++ rest)).1 = n := by
    have hback := scan_toList (wellFormed_scan hdigits)
    rw [htext, scan_toList hn] at hback
    exact (congrArg Prod.fst hback).symm
  have hrest : (scan (n.toList ++ rest)).2 = rest := by
    have hall := toList_scan (n.toList ++ rest)
    rw [hparts] at hall
    exact List.append_cancel_left hall
  exact Prod.ext hparts hrest

end Numeral

/-- There is no white space in a numeral. -/
theorem isBlank_of_mem_numeral {p : List Char} (hp : IsNumeral p) :
    ∀ c ∈ p, Text.isBlank c = false := by
  have hdigits {ds : List Char} (h : AllDigits ds) : ∀ c ∈ ds, Text.isBlank c = false :=
    fun c hc => isBlank_of_isDigit (h c hc)
  have hpoint : Text.isBlank '.' = false := by decide
  have hmantissa {m : List Char} (hm : IsMantissa m) : ∀ c ∈ m, Text.isBlank c = false := by
    obtain ⟨-, hm⟩ | ⟨ds, fs, rfl, hds, hfs⟩ := hm.shape
    · exact hdigits hm
    · exact List.forall_mem_append.2
        ⟨hdigits hds, List.forall_mem_cons.2 ⟨hpoint, hdigits hfs⟩⟩
  cases hp with
  | plain hm => exact hmantissa hm
  | @scaled m e hm he =>
    refine List.forall_mem_append.2 ⟨hmantissa hm, ?_⟩
    cases he with
    | @intro letter sign ds hletter hsign _ hds =>
      have hmark : Text.isBlank letter = false := by rcases hletter with rfl | rfl <;> decide
      have hsign' : ∀ c ∈ sign, Text.isBlank c = false := by
        rcases hsign with rfl | rfl | rfl <;> simp [Text.isBlank_plus, Text.isBlank_minus]
      exact List.forall_mem_cons.2 ⟨hmark, List.forall_mem_append.2 ⟨hsign', hdigits hds⟩⟩

/-- A numeral is scanned up to a blank. -/
theorem Numeral.scan_append_of_isBlank {n : Numeral} (hn : n.WellFormed) {w : Char}
    (hblank : Text.isBlank w = true) (cs : List Char) :
    scan (n.toList ++ w :: cs) = (n, w :: cs) := by
  refine scan_of_longest hn ?_
  intro p hp hfront
  rcases List.prefix_or_prefix_of_prefix hfront (List.prefix_append n.toList (w :: cs)) with
    hshorter | ⟨more, rfl⟩
  · exact hshorter
  · cases more with
    | nil => rw [List.append_nil]
    | cons c more =>
      -- A longer numeral would have the blank in it.
      have hmore : c :: more <+: w :: cs := (List.prefix_append_right_inj _).1 hfront
      obtain ⟨rfl, -⟩ := List.cons_prefix_cons.1 hmore
      have hinside := isBlank_of_mem_numeral hp c (by simp)
      exact absurd hblank (by simp [hinside])

/-! ### Exact values -/

/-- The number that digits write in base ten. -/
def written (ds : List Char) : ℕ := Nat.ofDigits 10 (ds.reverse.map Text.digitValue)

theorem written_eq (ds : List Char) : written ds = Text.digitsValue ds :=
  (digitsValue_eq_ofDigits ds).symm

/-- The power of ten that an exponent writes. -/
def Exponent.written (e : Exponent) : ℤ :=
  if e.sign = some '-' then -(Size.written e.digits : ℤ) else Size.written e.digits

namespace Numeral

variable {n : Numeral}

/-- The power of ten that the digits in front of the exponent are written with. -/
def writtenPower (n : Numeral) : ℤ :=
  (n.exponent.map Exponent.written).getD 0 - n.fractionDigits.length

/-- The value that a numeral writes. -/
def exact (n : Numeral) : ℚ := written (n.whole ++ n.fractionDigits) * 10 ^ n.writtenPower

/-- No digit of the exponent is lost, or it makes no difference. -/
def ReadInFull (n : Numeral) : Prop :=
  n.whole.length + n.fractionDigits.length + 20 ≤ Exponent.bound ∨
    ∀ e ∈ n.exponent, written e.digits < 10 * Exponent.bound

theorem exact_nonneg (n : Numeral) : 0 ≤ n.exact := by
  unfold exact
  positivity

/-- The power that values are computed with. -/
def cutPower (n : Numeral) (power : ℤ) : ℤ :=
  let lowest : ℤ := -((n.whole.length + n.fractionDigits.length + 14 : ℕ) : ℤ)
  if power < lowest then lowest else if 20 < power then 20 else power

theorem cutPower_cases (n : Numeral) (power : ℤ) :
    n.cutPower power = power ∨
      (n.cutPower power = -((n.whole.length + n.fractionDigits.length + 14 : ℕ) : ℤ) ∧
        power < -((n.whole.length + n.fractionDigits.length + 14 : ℕ) : ℤ)) ∨
      n.cutPower power = 20 ∧ 20 < power := by
  unfold cutPower
  simp only
  split
  · next hlow => exact .inr (.inl ⟨rfl, hlow⟩)
  · split
    · next hhigh => exact .inr (.inr ⟨rfl, hhigh⟩)
    · exact .inl rfl

theorem toRat_ofDecimal (mantissa : ℕ) (power : ℤ) :
    (Fraction.ofDecimal mantissa power).toRat = mantissa * 10 ^ power := by
  show ((mantissa * Nat.pow 10 power.toNat : ℕ) : ℚ) / ((Nat.pow 10 (-power).toNat : ℕ) : ℚ) = _
  rcases le_or_gt 0 power with hup | hdown
  · obtain ⟨k, rfl⟩ := Int.eq_ofNat_of_zero_le hup
    simp
  · obtain ⟨k, hk⟩ := Int.eq_ofNat_of_zero_le (show 0 ≤ -power by omega)
    obtain rfl : power = -(k : ℤ) := by omega
    simp [div_eq_mul_inv]

theorem toRat_value (n : Numeral) :
    n.value.toRat = written (n.whole ++ n.fractionDigits) * 10 ^ n.cutPower n.power := by
  rw [written_eq]
  exact toRat_ofDecimal _ _

theorem cutPower_of_low {power : ℤ}
    (h : power < -((n.whole.length + n.fractionDigits.length + 14 : ℕ) : ℤ)) :
    n.cutPower power = -((n.whole.length + n.fractionDigits.length + 14 : ℕ) : ℤ) :=
  if_pos h

theorem cutPower_of_high {power : ℤ} (h : 20 ≤ power) : n.cutPower power = 20 := by
  unfold cutPower
  simp only
  rw [if_neg (by omega)]
  split <;> omega

/-- Digits that are lost do not count in a numeral of ordinary length. -/
theorem cutPower_eq (h : n.ReadInFull) : n.cutPower n.power = n.cutPower n.writtenPower := by
  cases hexponent : n.exponent with
  | none => simp only [power, writtenPower, hexponent, Option.map_none]
  | some e =>
    have hpower : n.power = e.value - n.fractionDigits.length := by simp [power, hexponent]
    have hwrittenPower : n.writtenPower = e.written - n.fractionDigits.length := by
      simp [writtenPower, hexponent]
    have hwritten : written e.digits = Text.digitsValue e.digits := written_eq e.digits
    rcases lt_or_ge (written e.digits) (10 * Exponent.bound) with hread | hlost
    · have hmagnitude : e.magnitude = written e.digits := by
        rw [Exponent.magnitude, Text.digitsValueWhile_eq (hwritten ▸ hread), hwritten]
      have hvalue : e.value = e.written := by rw [Exponent.value, Exponent.written, hmagnitude]
      rw [hpower, hwrittenPower, hvalue]
    · -- The digits are lost on the far side of both ends.
      have hshort : n.whole.length + n.fractionDigits.length + 20 ≤ Exponent.bound := by
        refine h.resolve_right fun hread => ?_
        have := hread e hexponent
        omega
      have hmagnitude : Exponent.bound ≤ e.magnitude := by
        have hstop := Text.le_digitsValueWhile Exponent.bound e.digits
        show Exponent.bound ≤ Text.digitsValueWhile Exponent.bound e.digits
        omega
      by_cases hsign : e.sign = some '-'
      · have hvalue : e.value = -(e.magnitude : ℤ) := if_pos hsign
        have hvalue' : e.written = -(written e.digits : ℤ) := if_pos hsign
        rw [cutPower_of_low (by omega), cutPower_of_low (by omega)]
      · have hvalue : e.value = e.magnitude := if_neg hsign
        have hvalue' : e.written = written e.digits := if_neg hsign
        rw [cutPower_of_high (by omega), cutPower_of_high (by omega)]

end Numeral

/-! ### Quantities -/

/-- A text as a quantity. White space and a `+` are followed by a numeral, which is the longest one,
and by a unit. -/
structure Quantity (raw : String) where
  numeral : Numeral
  rest : List Char
  /-- The number of bytes in the unit. -/
  factor : ℕ
  notNegative : (Text.trimStart raw.toList).head? ≠ some '-'
  text_eq : unsigned raw = numeral.toList ++ rest
  wellFormed : numeral.WellFormed
  longest : ∀ p, IsNumeral p → p <+: unsigned raw → p <+: numeral.toList
  multiplies : Multiplies (Text.trimStart rest) factor

namespace Quantity

variable {raw : String}

/-- The number of bytes that is written. It need not be whole. -/
def size (q : Quantity raw) : ℚ := q.numeral.exact * q.factor

/-- A text with a number at the front is a quantity. -/
def ofStartsNumber (hminus : (Text.trimStart raw.toList).head? ≠ some '-')
    (hstarts : StartsNumber (unsigned raw)) : Quantity raw where
  numeral := (Numeral.scan (unsigned raw)).1
  rest := (Numeral.scan (unsigned raw)).2
  factor := (Scale.ofSuffix (Text.trimStart (Numeral.scan (unsigned raw)).2)).factor
  notNegative := hminus
  text_eq := (Numeral.toList_scan _).symm
  wellFormed := Numeral.wellFormed_scan ((Numeral.hasDigits_scan_iff _).2 hstarts)
  longest := fun _ hp hfront => Numeral.prefix_scan hp hfront
  multiplies := multiplies_ofSuffix _

/-- A numeral with a digit at the front and what is left behind it are a quantity. -/
def ofScan {n : Numeral} {rest : List Char} (hn : n.WellFormed) (hsome : n.whole ≠ [])
    (hscan : Numeral.scan (n.toList ++ rest) = (n, rest)) :
    Quantity (String.ofList (n.toList ++ rest)) :=
  have htrim : (Text.trimStart (n.toList ++ rest)).head? ≠ some '-' ∧
      dropPlus (Text.trimStart (n.toList ++ rest)) = n.toList ++ rest := by
    have hnothing : ∀ c ∈ ([] : List Char), Text.isBlank c = true := by simp
    have h := trimStart_signed hnothing false hsome hn.whole
      ((n.fraction.map ('.' :: ·)).getD [] ++ (n.exponent.map Exponent.toList).getD [] ++ rest)
    simpa [Numeral.toList] using h.2
  { numeral := n
    rest := rest
    factor := (Scale.ofSuffix (Text.trimStart rest)).factor
    notNegative := by rw [String.toList_ofList]; exact htrim.1
    text_eq := by rw [unsigned, String.toList_ofList]; exact htrim.2
    wellFormed := hn
    longest := by
      intro p hp hfront
      rw [unsigned, String.toList_ofList, htrim.2] at hfront
      have hprefix := Numeral.prefix_scan hp hfront
      rwa [hscan] at hprefix
    multiplies := multiplies_ofSuffix _ }

variable (q : Quantity raw)

theorem scan_eq : Numeral.scan (unsigned raw) = (q.numeral, q.rest) := by
  have hlongest := q.longest
  rw [q.text_eq] at hlongest ⊢
  exact Numeral.scan_of_longest q.wellFormed hlongest

theorem factor_eq : q.factor = (Scale.ofSuffix (Text.trimStart q.rest)).factor :=
  q.multiplies.eq (multiplies_ofSuffix _)

include q in
theorem startsNumber : StartsNumber (unsigned raw) := by
  rw [q.text_eq]
  exact Numeral.startsNumber_of_isNumeral (Numeral.isNumeral_toList q.wellFormed) _

/-- A quantity is read. -/
theorem parse_eq : parse raw = .ok (q.numeral.bytes (Scale.ofSuffix (Text.trimStart q.rest))) := by
  have hsome : Text.trimStart raw.toList ≠ [] := by
    intro hnil
    have hstarts := q.startsNumber
    rw [unsigned, hnil] at hstarts
    cases hstarts
  rw [parse_of_unsigned hsome q.notNegative, q.scan_eq]
  exact if_pos q.wellFormed.hasDigits

end Quantity

/-- **What is read is a quantity**, and every quantity is read. -/
theorem nonempty_quantity_iff {raw : String} :
    Nonempty (Quantity raw) ↔ ∃ bytes, parse raw = .ok bytes := by
  constructor
  · rintro ⟨q⟩
    exact ⟨_, q.parse_eq⟩
  · rintro ⟨bytes, hparse⟩
    obtain ⟨-, herror⟩ | ⟨-, herror⟩ | ⟨-, hminus, ⟨-, herror⟩ | ⟨hstarts, -⟩⟩ := parse_cases raw
    · cases herror.symm.trans hparse
    · cases herror.symm.trans hparse
    · cases herror.symm.trans hparse
    · exact ⟨.ofStartsNumber hminus hstarts⟩

/-! ### Bytes -/

/-- The bytes in `x` units of `factor` bytes each: `x` is rounded, the product is rounded, and its
whole part is cut off at the largest byte count. -/
def RoundedBytes (x : ℚ) (factor bytes : ℕ) : Prop :=
  ∃ w p, RoundsTo x w ∧ RoundsTo (w * factor) p ∧ bytes = min (2 ^ 64 - 1) ⌊p⌋₊

namespace RoundedBytes

variable {x : ℚ} {factor bytes : ℕ}

/-- Beyond the largest byte count all values are alike. -/
theorem eq_of_large (h : RoundedBytes x factor bytes) (hx : 2 ^ 64 ≤ x) (hfactor : 0 < factor) :
    bytes = 2 ^ 64 - 1 := by
  obtain ⟨w, p, hw, hp, rfl⟩ := h
  have hbinary : IsBinary 53 (2 ^ 64) := ⟨1, 64, by norm_num, by norm_num⟩
  have hfactor' : (1 : ℚ) ≤ factor := by exact_mod_cast hfactor
  have hle : (2 : ℚ) ^ 64 ≤ w := hw.le_of_le hbinary hx
  have hproduct : (2 : ℚ) ^ 64 ≤ p := by
    refine hp.le_of_le hbinary ?_
    calc (2 : ℚ) ^ 64 ≤ w * 1 := by rwa [mul_one]
      _ ≤ w * factor := mul_le_mul_of_nonneg_left hfactor' hw.nonneg
  have hfloor : 2 ^ 64 ≤ ⌊p⌋₊ := Nat.le_floor (by exact_mod_cast hproduct)
  omega

/-- Far below one byte all values are alike. -/
theorem eq_of_small (h : RoundedBytes x factor bytes) (hx : x ≤ 1 / 2 ^ 46)
    (hfactor : factor ≤ 2 ^ 40) : bytes = 0 := by
  obtain ⟨w, p, hw, hp, rfl⟩ := h
  have hfactor' : (factor : ℚ) ≤ 2 ^ 40 := by exact_mod_cast hfactor
  have hle : w ≤ 1 / 2 ^ 46 := hw.ge_of_ge ⟨1, -46, by norm_num, by norm_num⟩ hx
  have hproduct : p ≤ 1 / 2 ^ 6 := by
    refine hp.ge_of_ge ⟨1, -6, by norm_num, by norm_num⟩ ?_
    calc w * factor ≤ 1 / 2 ^ 46 * 2 ^ 40 :=
          mul_le_mul hle hfactor' (Nat.cast_nonneg _) (by norm_num)
      _ ≤ 1 / 2 ^ 6 := by norm_num
  have hfloor : ⌊p⌋₊ = 0 := Nat.floor_eq_zero.2 (by linarith)
  rw [hfloor]
  rfl

end RoundedBytes

/-- There is always a number to round to. -/
theorem exists_roundsTo {x : ℚ} (hx : 0 ≤ x) : ∃ y, RoundsTo x y := by
  have h := Fraction.roundsTo_nearest (Fraction.ofRat x)
  rw [Fraction.toRat_ofRat hx] at h
  exact ⟨_, h⟩

theorem exists_roundedBytes {x : ℚ} (hx : 0 ≤ x) (factor : ℕ) :
    ∃ bytes, RoundedBytes x factor bytes := by
  obtain ⟨w, hw⟩ := exists_roundsTo hx
  obtain ⟨p, hp⟩ := exists_roundsTo (mul_nonneg hw.nonneg (Nat.cast_nonneg factor))
  exact ⟨_, w, p, hw, hp, rfl⟩

theorem Scale.factor_le (s : Scale) : s.factor ≤ 2 ^ 40 := by cases s <;> decide

theorem Fraction.roundedBytes (x : Fraction) (factor : ℕ) :
    RoundedBytes x.toRat factor
      (Bytes.clamp (x.nearest.mulNat factor).nearest.floor).toNat := by
  refine ⟨_, (x.nearest.mulNat factor).nearest.toRat, x.roundsTo_nearest, ?_, ?_⟩
  · rw [← Fraction.toRat_mulNat]
    exact Fraction.roundsTo_nearest _
  · rw [toNat_clamp_eq_min, Fraction.floor_eq]

theorem written_lt (ds : List Char) (hdigits : AllDigits ds) : written ds < 10 ^ ds.length := by
  have h := Nat.ofDigits_lt_base_pow_length (b := 10) (l := ds.reverse.map Text.digitValue)
    (by decide)
  rw [List.length_map, List.length_reverse] at h
  refine h ?_
  intro x hx
  obtain ⟨c, hc, rfl⟩ := List.mem_map.1 hx
  have hle : c.toNat ≤ 57 := (toNat_of_isDigit (hdigits c (List.mem_reverse.1 hc))).2
  show c.toNat - 48 < 10
  omega

namespace Numeral

variable {n : Numeral}

/-- Fourteen places behind the last digit nothing is left of a byte. -/
theorem mul_zpow_le_of_lt {mantissa digits : ℕ} (h : mantissa < 10 ^ digits) :
    (mantissa : ℚ) * 10 ^ (-((digits + 14 : ℕ) : ℤ)) ≤ 1 / 2 ^ 46 := by
  have hle : (mantissa : ℚ) ≤ 10 ^ digits := by exact_mod_cast h.le
  calc (mantissa : ℚ) * 10 ^ (-((digits + 14 : ℕ) : ℤ))
      ≤ 10 ^ digits * 10 ^ (-((digits + 14 : ℕ) : ℤ)) :=
        mul_le_mul_of_nonneg_right hle (by positivity)
    _ = 1 / 10 ^ 14 := by
        rw [zpow_neg, zpow_natCast, pow_add 10 _ 14]
        field_simp
    _ ≤ 1 / 2 ^ 46 := by norm_num

/-- Twenty places in front of the point every number is beyond all byte counts. -/
theorem le_mul_zpow_of_pos {mantissa : ℕ} (h : 0 < mantissa) :
    (2 : ℚ) ^ 64 ≤ mantissa * 10 ^ (20 : ℤ) := by
  have hone : (1 : ℚ) ≤ mantissa := by exact_mod_cast h
  calc (2 : ℚ) ^ 64 ≤ 1 * 10 ^ (20 : ℤ) := by norm_num
    _ ≤ mantissa * 10 ^ (20 : ℤ) := mul_le_mul_of_nonneg_right hone (by norm_num)

/-- The value is the exact one, or both are far below a byte, or both are beyond all byte counts. -/
theorem value_cases (hn : n.WellFormed) (hread : n.ReadInFull) :
    n.value.toRat = n.exact ∨ (n.value.toRat ≤ 1 / 2 ^ 46 ∧ n.exact ≤ n.value.toRat) ∨
      2 ^ 64 ≤ n.value.toRat ∧ n.value.toRat ≤ n.exact := by
  have hdigits : AllDigits (n.whole ++ n.fractionDigits) := by
    intro c hc
    rcases List.mem_append.1 hc with hc | hc
    · exact hn.whole c hc
    · exact hn.fraction c hc
  have hmantissa := written_lt _ hdigits
  rw [List.length_append] at hmantissa
  rw [toRat_value, cutPower_eq hread, exact]
  generalize written (n.whole ++ n.fractionDigits) = mantissa at hmantissa ⊢
  have hmono : ∀ {low high : ℤ}, low ≤ high →
      (mantissa : ℚ) * 10 ^ low ≤ mantissa * 10 ^ high := by
    intro low high hle
    have hpower := zpow_le_zpow_right₀ (show (1 : ℚ) ≤ 10 by norm_num) hle
    exact mul_le_mul_of_nonneg_left hpower (Nat.cast_nonneg _)
  rcases n.cutPower_cases n.writtenPower with hcut | ⟨hcut, hlow⟩ | ⟨hcut, hhigh⟩
  · left
    rw [hcut]
  · right
    left
    rw [hcut]
    exact ⟨mul_zpow_le_of_lt hmantissa, hmono hlow.le⟩
  · rcases Nat.eq_zero_or_pos mantissa with hzero | hpos
    · left
      rw [hzero, Nat.cast_zero, zero_mul, zero_mul]
    · right
      right
      rw [hcut]
      exact ⟨le_mul_zpow_of_pos hpos, hmono hhigh.le⟩

/-- **How a numeral is read that is not whole.** The value is the exact one; that the power of ten is
cut off is never seen. -/
theorem roundedBytes_bytes (hn : n.WellFormed) (hread : n.ReadInFull) (hwhole : n.isWhole = false)
    (s : Scale) : RoundedBytes n.exact s.factor (n.bytes s).toNat := by
  have hbytes : RoundedBytes n.value.toRat s.factor (n.bytes s).toNat := by
    rw [bytes, hwhole]
    exact Fraction.roundedBytes n.value s.factor
  obtain ⟨bytes, hexact⟩ := exists_roundedBytes n.exact_nonneg s.factor
  rcases value_cases hn hread with hsame | ⟨hsmall, hless⟩ | ⟨hlarge, hmore⟩
  · rwa [hsame] at hbytes
  · have hnone := hexact.eq_of_small (hless.trans hsmall) s.factor_le
    rw [hbytes.eq_of_small hsmall s.factor_le, ← hnone]
    exact hexact
  · have hall := hexact.eq_of_large (hlarge.trans hmore) s.factor_pos
    rw [hbytes.eq_of_large hlarge s.factor_pos, ← hall]
    exact hexact

/-- A numeral that is whole writes a whole number, and is read as that. -/
theorem toNat_bytes_of_isWhole (hwhole : n.isWhole = true) (s : Scale) :
    n.exact = written n.whole ∧ (n.bytes s).toNat = min (2 ^ 64 - 1) (written n.whole * s.factor) := by
  have hparts : n.fractionDigits = [] ∧ n.exponent = none := by
    simpa [isWhole] using hwhole
  refine ⟨?_, ?_⟩
  · simp [exact, writtenPower, hparts.1, hparts.2]
  · rw [bytes, if_pos hwhole, toNat_clamp_eq_min, written_eq]

end Numeral

end Size

end DeviceQuota
